import Aats.Governance.HaltKept

/-!
# The submission fence

`HALTED` is acknowledged by an execution authority after it has drained the submission fence.
The acknowledgement is truthful as long as the coroutines of the switch do not get into each
other's way (`FenceUndisturbed`): a submission does not apply `RUNNING` over a halt that began
during its authority read, no resume applies `RUNNING` in the middle of a halt, a renewal does
not adopt this role's own `HALTED` record while a submission holds the fence, and the generation
does not change while a submission awaits its lease.
-/

namespace Aats.Governance

open Execution (Timestamp)
open Runs

/-! ### The statement -/

/-- Once `HALTED` is acknowledged, by the phase with this process's own role or by the return of
`halt_async`, no body is running, until a resume has applied `RUNNING` with a new generation. -/
def NoBodyWhileHalted (cfg : Config) {n : ℕ} (s : Machine n) : Prop :=
  s.shared.acked = true ∨ s.shared.ks.ownHalted cfg = true → ∀ i, (s.task i).inside = false

/-- A running body was admitted with the generation current at its admission, an authoritative
`RUNNING` record of that generation, and (where a lease is required) a lease of it. -/
def BodyAdmitted (cfg : Config) : Task → Prop
  | .guardInside expected record lease current =>
    current = expected ∧ record.authorizesRunning = true ∧ record.generation = expected ∧
      (cfg.failClosedOnAuthorityLoss = true →
        ∃ l ∈ lease, l.generation = expected ∧ l.issuedBy ∈ permissionIssuers)
  | _ => True

instance (cfg : Config) {n : ℕ} (s : Machine n) : Decidable (NoBodyWhileHalted cfg s) :=
  inferInstanceAs (Decidable (_ ∨ _ → ∀ i, (s.task i).inside = false))

instance (cfg : Config) (task : Task) : Decidable (BodyAdmitted cfg task) :=
  match task with
  | .guardInside _ _ lease _ =>
    inferInstanceAs (Decidable (_ ∧ _ ∧ _ ∧ (_ → ∃ l ∈ lease, _)))
  | .idle | .publishing _ _ _ | .draining _ | .checkingResume _ _ | .guardWaiting _
  | .guardReading _ _ | .guardLeasing _ _ | .renewing _ _ | .resumeWriting _ _ _
  | .resumeBroadcasting _ => .isTrue trivial

/-- The coroutines do not get into each other's way. -/
structure FenceUndisturbed (cfg : Config) {n : ℕ} (s : Machine n) (l : Fin n × Input) : Prop where
  /-- A submission applies the record it has read only if no halt has begun since its first
  check, or a resume has followed. -/
  read : ∀ seen ∈ appliesRead s.shared (s.task l.1) l.2,
    seen = s.shared.halts ∨ s.shared.resumedSince = true
  /-- A resume applies `RUNNING` only between halts, and under a generation that no halt has. -/
  resume : ∀ applied ∈ appliesResume (s.task l.1) l.2,
    (∀ j, (s.task j).halts = false) ∧ applied.2 ∉ s.shared.haltGenerations
  /-- A renewal adopts this role's own `HALTED` only while no submission holds the fence. -/
  adopt : adoptsOwnHalt cfg (s.task l.1) l.2 = true → s.shared.fence = none
  /-- The generation changes only while no submission awaits its lease. -/
  lease : ∀ next ∈ advance cfg s.shared l.1 (s.task l.1) l.2,
    next.1.ks.generation ≠ s.shared.ks.generation → ∀ j, (s.task j).leasing = none

instance (cfg : Config) {n : ℕ} (s : Machine n) (l : Fin n × Input) :
    Decidable (FenceUndisturbed cfg s l) :=
  decidable_of_iff
    ((∀ seen ∈ appliesRead s.shared (s.task l.1) l.2,
        seen = s.shared.halts ∨ s.shared.resumedSince = true) ∧
      (∀ applied ∈ appliesResume (s.task l.1) l.2,
        (∀ j, (s.task j).halts = false) ∧ applied.2 ∉ s.shared.haltGenerations) ∧
      (adoptsOwnHalt cfg (s.task l.1) l.2 = true → s.shared.fence = none) ∧
      ∀ next ∈ advance cfg s.shared l.1 (s.task l.1) l.2,
        next.1.ks.generation ≠ s.shared.ks.generation → ∀ j, (s.task j).leasing = none)
    ⟨fun ⟨h₁, h₂, h₃, h₄⟩ => ⟨h₁, h₂, h₃, h₄⟩, fun ⟨h₁, h₂, h₃, h₄⟩ => ⟨h₁, h₂, h₃, h₄⟩⟩

/-! ### The invariant -/

/-- An acknowledged halt blocks and leaves the fence free; and a halt blocks until a resume. -/
structure SwitchFence (cfg : Config) (sw : Switch) : Prop where
  own : sw.ks.ownHalted cfg = true → sw.acked = true
  acked : sw.acked = true → sw.ks.halted = true ∧ sw.fence = none
  halted : 0 < sw.halts → sw.ks.halted = true ∨ sw.resumedSince = true

/-- One coroutine against the switch: a submission past its first check holds the fence, a halt
under way blocks, one that has drained the fence finds it free, and what a submission has
checked still holds. -/
structure TaskFence (cfg : Config) (sw : Switch) (me : ℕ) (task : Task) : Prop where
  holds : task.pastEntry = true → sw.fence = some me
  halts : task.halts = true → sw.ks.halted = true ∧ sw.resumedSince = false ∧ 0 < sw.halts
  drained : task.drained = true → sw.fence = none
  reads : ReadingOk sw.resumedSince sw.halts task
  leases : ∀ expected r, task = .guardLeasing expected r →
    expected = sw.ks.generation ∧ r.authorizesRunning = true ∧ r.generation = expected
  admitted : BodyAdmitted cfg task

theorem taskFence_of_outside {cfg : Config} {sw : Switch} {me : ℕ} {task : Task}
    (houtside : task.pastEntry = false)
    (hhalts : task.halts = true → sw.ks.halted = true ∧ sw.resumedSince = false ∧ 0 < sw.halts)
    (hdrained : task.drained = true → sw.fence = none) : TaskFence cfg sw me task where
  holds := fun h => by rw [houtside] at h; cases h
  halts := hhalts
  drained := hdrained
  reads := readingOk_of_none (Task.readsSince_of_outside houtside)
  leases := by
    intro expected r h
    rw [h] at houtside
    cases houtside
  admitted := by
    cases task with
    | guardInside expected record lease current => cases houtside
    | _ => trivial

theorem taskFence_idle {cfg : Config} {sw : Switch} {me : ℕ} : TaskFence cfg sw me .idle :=
  taskFence_of_outside rfl (fun h => by cases h) (fun h => by cases h)

section Steps

variable {cfg : Config} {sw sw₀ : Switch} {me : ℕ} {task : Task}

theorem TaskFence.leases_kept (h : TaskFence cfg sw me task)
    (lease : sw₀.ks.generation ≠ sw.ks.generation → task.leasing = none) {expected : String}
    {r : AuthorityRecord} (htask : task = .guardLeasing expected r) :
    expected = sw₀.ks.generation ∧ r.authorizesRunning = true ∧ r.generation = expected := by
  obtain ⟨hgen, hauth, hrec⟩ := h.leases expected r htask
  refine ⟨?_, hauth, hrec⟩
  by_contra hne
  have hleasing := lease (fun heq => hne (hgen.trans heq.symm))
  rw [htask] at hleasing
  cases hleasing

theorem taskFence_keep (record : sw.SameRecord sw₀) (fence : sw₀.fence = sw.fence)
    (halted : sw.ks.halted = true → sw₀.ks.halted = true)
    (lease : sw₀.ks.generation ≠ sw.ks.generation → task.leasing = none)
    (h : TaskFence cfg sw me task) (event : Event) (hevent : event = .quiet ∨ event = .returned) :
    TaskFence cfg (sw₀.note cfg event) me task := by
  have hnote : (sw₀.note cfg event).ks = sw₀.ks ∧ (sw₀.note cfg event).fence = sw₀.fence ∧
      (sw₀.note cfg event).halts = sw₀.halts ∧
      (sw₀.note cfg event).resumedSince = sw₀.resumedSince := by
    rcases hevent with rfl | rfl <;> exact ⟨rfl, rfl, rfl, rfl⟩
  obtain ⟨hks, hfence, hhalts, hsince⟩ := hnote
  refine ⟨?_, ?_, ?_, ?_, ?_, h.admitted⟩
  · intro hpast
    rw [hfence, fence]
    exact h.holds hpast
  · intro hjob
    obtain ⟨hh, hs, hpos⟩ := h.halts hjob
    rw [hks, hsince, hhalts, record.resumedSince, record.halts]
    exact ⟨halted hh, hs, hpos⟩
  · intro hdrained
    rw [hfence, fence]
    exact h.drained hdrained
  · rw [hsince, hhalts, record.resumedSince, record.halts]
    exact h.reads
  · intro expected r htask
    rw [hks]
    exact h.leases_kept lease htask

theorem taskFence_began (record : sw.SameRecord sw₀) (fence : sw₀.fence = sw.fence)
    (halted : sw₀.ks.halted = true)
    (lease : sw₀.ks.generation ≠ sw.ks.generation → task.leasing = none)
    (h : TaskFence cfg sw me task) : TaskFence cfg (sw₀.note cfg .began) me task where
  holds := fun hpast => fence.trans (h.holds hpast)
  halts := fun _ => ⟨halted, rfl, Nat.succ_pos _⟩
  drained := fun hdrained => fence.trans (h.drained hdrained)
  reads := by
    refine readingOk_succ ?_ h.reads
    show sw₀.halts + 1 = sw.halts + 1
    rw [record.halts]
  leases := fun _ _ htask => h.leases_kept lease htask
  admitted := h.admitted

theorem taskFence_resumed {seen : ℕ} {generation : String} (record : sw.SameRecord sw₀)
    (fence : sw₀.fence = sw.fence) (hnone : task.halts = false)
    (lease : sw₀.ks.generation ≠ sw.ks.generation → task.leasing = none)
    (h : TaskFence cfg sw me task) :
    TaskFence cfg (sw₀.note cfg (.resumed seen generation)) me task where
  holds := fun hpast => fence.trans (h.holds hpast)
  halts := by
    intro hjob
    rw [hnone] at hjob
    cases hjob
  drained := fun hdrained => fence.trans (h.drained hdrained)
  reads := readingOk_mono record.halts (fun _ => rfl) h.reads
  leases := fun _ _ htask => h.leases_kept lease htask
  admitted := h.admitted

theorem taskFence_entered {other : ℕ} (free : sw.fence = none) (running : sw.ks.halted = false)
    (h : TaskFence cfg sw me task) :
    TaskFence cfg (Switch.note cfg { sw with fence := some other } .quiet) me task := by
  have houtside : task.pastEntry = false := by
    by_contra hpast
    have hmine := h.holds (by simpa using hpast)
    rw [free] at hmine
    cases hmine
  have hnojob : task.halts = false := by
    by_contra hjob
    have hh := (h.halts (by simpa using hjob)).1
    rw [running] at hh
    cases hh
  refine taskFence_of_outside houtside ?_ ?_
  · intro hjob
    rw [hnojob] at hjob
    cases hjob
  · intro hdrained
    rw [Task.halts_of_drained hdrained] at hnojob
    cases hnojob

theorem taskFence_other {other : ℕ} (record : sw.SameRecord sw₀) (hholder : sw.fence = some other)
    (hne : me ≠ other) (halted : task.halts = true → sw₀.ks.halted = true)
    (fence : task.drained = true → sw₀.fence = none) (h : TaskFence cfg sw me task) :
    TaskFence cfg (sw₀.note cfg .quiet) me task := by
  have houtside : task.pastEntry = false := by
    by_contra hpast
    have hmine := h.holds (by simpa using hpast)
    rw [hholder, Option.some.injEq] at hmine
    exact hne hmine.symm
  refine taskFence_of_outside houtside ?_ fence
  intro hjob
  obtain ⟨-, hs, hpos⟩ := h.halts hjob
  exact ⟨halted hjob, record.resumedSince.trans hs, record.halts ▸ hpos⟩

theorem switchFence_quiet (record : sw.SameRecord sw₀) (fence : sw₀.fence = sw.fence)
    (halted : sw.ks.halted = true → sw₀.ks.halted = true)
    (own : sw₀.ks.ownHalted cfg = true → sw.ks.ownHalted cfg = true ∨
      sw.fence = none ∧ sw₀.ks.halted = true) (h : SwitchFence cfg sw) :
    SwitchFence cfg (sw₀.note cfg .quiet) where
  own := by
    intro hown
    show (sw₀.acked || sw₀.ks.ownHalted cfg) = true
    rw [show sw₀.ks.ownHalted cfg = true from hown, Bool.or_true]
  acked := by
    intro hacked
    show sw₀.ks.halted = true ∧ sw₀.fence = none
    rw [fence]
    have hcases : sw.acked = true ∨ sw₀.ks.ownHalted cfg = true := by
      rw [← record.acked]
      simpa [Switch.note] using hacked
    rcases hcases with hacked | hown
    · obtain ⟨hh, hf⟩ := h.acked hacked
      exact ⟨halted hh, hf⟩
    · rcases own hown with hown' | ⟨hf, hh⟩
      · obtain ⟨hh, hf⟩ := h.acked (h.own hown')
        exact ⟨halted hh, hf⟩
      · exact ⟨hh, hf⟩
  halted := by
    intro hpos
    have hpos' : 0 < sw.halts := record.halts ▸ hpos
    rcases h.halted hpos' with hh | hs
    · exact .inl (halted hh)
    · exact .inr (record.resumedSince.trans hs)

theorem not_acked (h : SwitchFence cfg sw) (hopen : sw.ks.halted = true → sw.fence ≠ none) :
    sw.acked = false ∧ sw.ks.ownHalted cfg = false := by
  have hacked : sw.acked = false := by
    by_contra hne
    obtain ⟨hh, hfree⟩ := h.acked (by simpa using hne)
    exact hopen hh hfree
  refine ⟨hacked, ?_⟩
  by_contra hne
  have hcontra := h.own (by simpa using hne)
  rw [hacked] at hcontra
  cases hcontra

theorem not_acked_of_holder {holder : ℕ} (h : SwitchFence cfg sw) (hholder : sw.fence = some holder) :
    sw.acked = false ∧ sw.ks.ownHalted cfg = false := by
  apply not_acked h
  intro _ hfree
  rw [hholder] at hfree
  cases hfree

theorem switchFence_holder {holder : ℕ} (record : sw.SameRecord sw₀)
    (hholder : sw.fence = some holder)
    (own : sw₀.ks.ownHalted cfg = true → sw₀.ks.halted = true ∧ sw₀.fence = none)
    (halted : 0 < sw.halts → sw₀.ks.halted = true ∨ sw.resumedSince = true)
    (h : SwitchFence cfg sw) : SwitchFence cfg (sw₀.note cfg .quiet) where
  own := by
    intro hown
    show (sw₀.acked || sw₀.ks.ownHalted cfg) = true
    rw [show sw₀.ks.ownHalted cfg = true from hown, Bool.or_true]
  acked := by
    intro hacked
    have hown : sw₀.ks.ownHalted cfg = true := by
      have hor : (sw₀.acked || sw₀.ks.ownHalted cfg) = true := hacked
      rw [record.acked, (not_acked_of_holder h hholder).1, Bool.false_or] at hor
      exact hor
    exact own hown
  halted := by
    intro hpos
    rcases halted (record.halts ▸ hpos) with hh | hs
    · exact .inl hh
    · exact .inr (record.resumedSince.trans hs)

theorem switchFence_began (record : sw.SameRecord sw₀) (fence : sw₀.fence = sw.fence)
    (halted : sw₀.ks.halted = true)
    (own : sw₀.ks.ownHalted cfg = true → sw.ks.ownHalted cfg = true) (h : SwitchFence cfg sw) :
    SwitchFence cfg (sw₀.note cfg .began) where
  own := by
    intro hown
    show (sw₀.acked || sw₀.ks.ownHalted cfg) = true
    rw [show sw₀.ks.ownHalted cfg = true from hown, Bool.or_true]
  acked := by
    intro hacked
    have hor : (sw₀.acked || sw₀.ks.ownHalted cfg) = true := hacked
    rw [record.acked, Bool.or_eq_true] at hor
    have hbefore : sw.acked = true := by
      rcases hor with hor | hor
      · exact hor
      · exact h.own (own hor)
    exact ⟨halted, fence.trans (h.acked hbefore).2⟩
  halted := fun _ => .inl halted

theorem switchFence_resumed {seen : ℕ} {generation : String} (record : sw.SameRecord sw₀)
    (hfresh : generation ∉ sw.haltGenerations) (own : sw₀.ks.ownHalted cfg = false) :
    SwitchFence cfg (sw₀.note cfg (.resumed seen generation)) where
  own := by
    intro hown
    have hown' : sw₀.ks.ownHalted cfg = true := hown
    rw [own] at hown'
    cases hown'
  acked := by
    intro hacked
    have hand : (sw₀.acked && decide (generation ∈ sw₀.haltGenerations)) = true := hacked
    rw [record.haltGenerations, decide_eq_false hfresh, Bool.and_false] at hand
    cases hand
  halted := fun _ => .inr rfl

theorem switchFence_entered {other : ℕ} (running : sw.ks.halted = false)
    (h : SwitchFence cfg sw) :
    SwitchFence cfg (Switch.note cfg { sw with fence := some other } .quiet) := by
  obtain ⟨hacked, hown⟩ := not_acked h (fun hh => by rw [running] at hh; cases hh)
  refine ⟨?_, ?_, h.halted⟩
  · intro hown'
    have hcontra : sw.ks.ownHalted cfg = true := hown'
    rw [hown] at hcontra
    cases hcontra
  · intro hack
    have hcontra : (sw.acked || sw.ks.ownHalted cfg) = true := hack
    rw [hacked, hown] at hcontra
    cases hcontra

theorem resumedSince_of_read {expected : String} {seen : ℕ}
    (h : TaskFence cfg sw me (.guardReading expected seen))
    (hok : seen = sw.halts ∨ sw.resumedSince = true) (hpos : 0 < sw.halts) :
    sw.resumedSince = true := by
  rcases hok with hseen | hs
  · exact (h.reads seen rfl).2 hseen hpos
  · exact hs

theorem SwitchFence.still_halted (h : SwitchFence cfg sw)
    (hkeep : (sw.ks.halted = true → sw₀.ks.halted = true) ∨
      (0 < sw.halts → sw.resumedSince = true)) (hpos : 0 < sw.halts) :
    sw₀.ks.halted = true ∨ sw.resumedSince = true := by
  rcases hkeep with hkeep | hsince
  · rcases h.halted hpos with hh | hs
    · exact .inl (hkeep hh)
    · exact .inr hs
  · exact .inr (hsince hpos)

theorem TaskFence.still_halted (h : TaskFence cfg sw me task)
    (hkeep : (sw.ks.halted = true → sw₀.ks.halted = true) ∨
      (0 < sw.halts → sw.resumedSince = true)) (hjob : task.halts = true) :
    sw₀.ks.halted = true := by
  obtain ⟨hh, hs, hpos⟩ := h.halts hjob
  rcases hkeep with hkeep | hsince
  · exact hkeep hh
  · rw [hsince hpos] at hs
    cases hs

theorem taskFence_reading {expected : String} (running : sw.ks.halted = false)
    (h : SwitchFence cfg sw) :
    TaskFence cfg (Switch.note cfg { sw with fence := some me } .quiet) me
      (.guardReading expected sw.halts) where
  holds := fun _ => rfl
  halts := fun hj => by cases hj
  drained := fun hd => by cases hd
  reads := by
    intro seen hseen
    obtain rfl : sw.halts = seen := Option.mem_some_iff.mp hseen
    refine ⟨le_refl _, ?_⟩
    intro _ hpos
    rcases h.halted hpos with hh | hs
    · rw [running] at hh
      cases hh
    · exact hs
  leases := fun _ _ heq => by cases heq
  admitted := trivial

theorem taskFence_leasing {expected : String} {r : AuthorityRecord} (hholder : sw₀.fence = some me)
    (current : sw₀.ks.generation = expected) (authorized : r.authorizesRunning = true)
    (generation : r.generation = expected) :
    TaskFence cfg (sw₀.note cfg .quiet) me (.guardLeasing expected r) where
  holds := fun _ => hholder
  halts := fun hj => by cases hj
  drained := fun hd => by cases hd
  reads := readingOk_of_none rfl
  leases := by
    intro expected' r' heq
    cases heq
    exact ⟨current.symm, authorized, generation⟩
  admitted := trivial

theorem taskFence_inside {expected current : String} {r : AuthorityRecord} {lease : Option Lease}
    (hholder : sw₀.fence = some me)
    (hadmitted : BodyAdmitted cfg (.guardInside expected r lease current)) :
    TaskFence cfg (sw₀.note cfg .quiet) me (.guardInside expected r lease current) where
  holds := fun _ => hholder
  halts := fun hj => by cases hj
  drained := fun hd => by cases hd
  reads := readingOk_of_none rfl
  leases := fun _ _ heq => by cases heq
  admitted := hadmitted

end Steps

/-! ### One move -/

theorem fenceInv_step (cfg : Config) (hrole : cfg.isExecutionAuthority = true) {n : ℕ}
    (s : Machine n) (l : Fin n × Input) (t : Machine n)
    (h : TasksInv (SwitchFence cfg) (TaskFence cfg) s) (hok : FenceUndisturbed cfg s l)
    (hstep : machineStep cfg s l = some t) : TasksInv (SwitchFence cfg) (TaskFence cfg) t := by
  obtain ⟨i, input⟩ := l
  obtain ⟨sw', task', hadv, rfl⟩ := tasksStep_eq_some hstep
  obtain ⟨hread, hresume, hadopt, hlease⟩ := hok
  have hlease' := hlease _ hadv
  obtain ⟨sw₀, event, rfl, heffect⟩ := advance_effect hadv
  have hmover := h.each i
  have hks : (sw₀.note cfg event).ks = sw₀.ks := by cases event <;> rfl
  simp only at hread hresume hadopt hlease'
  rw [hks] at hlease'
  generalize htask : s.task i = task at *
  -- the others, when the fence stays with its holder and nothing is unblocked
  have hothers : ∀ event', event' = .quiet ∨ event' = .returned → s.shared.SameRecord sw₀ →
      sw₀.fence = s.shared.fence → (s.shared.ks.halted = true → sw₀.ks.halted = true) →
      ∀ j : Fin n, j ≠ i → TaskFence cfg (sw₀.note cfg event') j (s.task j) :=
    fun event' hevent record fence halted j _ =>
      taskFence_keep record fence halted (fun hne => hlease' hne j) (h.each j) event' hevent
  -- the others, when the holder of the fence moves
  have hbeside : s.shared.fence = some (i : ℕ) → s.shared.SameRecord sw₀ →
      (∀ j : Fin n, j ≠ i → (s.task j).halts = true → sw₀.ks.halted = true) →
      (∀ j : Fin n, j ≠ i → (s.task j).drained = true → sw₀.fence = none) →
      ∀ j : Fin n, j ≠ i → TaskFence cfg (sw₀.note cfg .quiet) j (s.task j) :=
    fun hholder record halted fence j hj =>
      taskFence_other record hholder (fun heq => hj (Fin.ext heq)) (halted j hj) (fence j hj)
        (h.each j)
  cases heffect with
  | internal record fence halted own outside outside' halts drained =>
    refine tasksInv_step ?_ ?_ (hothers .quiet (.inl rfl) record fence halted)
    · refine switchFence_quiet record fence halted ?_ h.shared
      intro hown
      rcases own hown with hown' | ⟨hadopts, hh⟩
      · exact .inl hown'
      · exact .inr ⟨hadopt hadopts, hh⟩
    · refine taskFence_of_outside outside' ?_ ?_
      · intro hjob
        obtain ⟨hh, hs, hpos⟩ := hmover.halts (halts hjob)
        exact ⟨halted hh, record.resumedSince.trans hs, record.halts ▸ hpos⟩
      · intro hdrained
        exact fence.trans (hmover.drained (drained hdrained))
  | began record fence halted own outside' drained =>
    refine tasksInv_step (switchFence_began record fence halted own h.shared) ?_ ?_
    · exact taskFence_of_outside outside' (fun _ => ⟨halted, rfl, Nat.succ_pos _⟩)
        (fun hd => by rw [drained] at hd; cases hd)
    · intro j _
      exact taskFence_began record fence halted (fun hne => hlease' hne j) (h.each j)
  | returned record fence halted halts drained =>
    have hquiet : s.shared.ks.halted = true → sw₀.ks.halted = true := (halted.trans ·)
    refine tasksInv_step ?_ taskFence_idle (hothers .returned (.inr rfl) record fence hquiet)
    -- the halt that returns has drained the fence and still blocks
    have hh : sw₀.ks.halted = true := hquiet (hmover.halts halts).1
    have hf : sw₀.fence = none := fence.trans (hmover.drained (drained hrole))
    exact ⟨fun _ => rfl, fun _ => ⟨hh, hf⟩, fun _ => .inl hh⟩
  | drained record free fence halted outside' =>
    have hquiet : s.shared.ks.halted = true → sw₀.ks.halted = true := (halted.trans ·)
    obtain ⟨hh, hs, hpos⟩ := hmover.halts rfl
    refine tasksInv_step ?_ ?_
      (hothers .quiet (.inl rfl) record (fence.trans free.symm) hquiet)
    · exact switchFence_quiet record (fence.trans free.symm) hquiet
        (fun _ => .inr ⟨free, hquiet hh⟩) h.shared
    · exact taskFence_of_outside outside'
        (fun _ => ⟨hquiet hh, record.resumedSince.trans hs, record.halts ▸ hpos⟩) (fun _ => fence)
  | @resumed task task' sw₀ seen generation record fence applies own outside outside' halts drained =>
    obtain ⟨hnone, hfresh⟩ := hresume _ applies
    refine tasksInv_step (switchFence_resumed record hfresh own) ?_ ?_
    · exact taskFence_of_outside outside' (fun hj => by rw [halts] at hj; cases hj)
        (fun hd => by rw [drained] at hd; cases hd)
    · intro j _
      exact taskFence_resumed record fence (hnone j) (fun hne => hlease' hne j) (h.each j)
  | entered free running =>
    refine tasksInv_step (switchFence_entered running h.shared) ?_ ?_
    · exact taskFence_reading running h.shared
    · intro j _
      exact taskFence_entered free running (h.each j)
  | @refused expected seen sw₀ record fence halted own =>
    have hholder := hmover.holds rfl
    obtain ⟨-, hnotown⟩ := not_acked_of_holder h.shared hholder
    have hkeep : (s.shared.ks.halted = true → sw₀.ks.halted = true) ∨
        (0 < s.shared.halts → s.shared.resumedSince = true) :=
      halted.imp_right fun happlies => resumedSince_of_read hmover (hread _ happlies)
    refine tasksInv_step ?_ taskFence_idle (hbeside hholder record ?_ (fun _ _ _ => fence))
    · refine switchFence_holder record hholder ?_ (h.shared.still_halted hkeep) h.shared
      intro hown
      rcases own hown with hh | hown'
      · exact ⟨hh, fence⟩
      · rw [hnotown] at hown'
        cases hown'
    · intro j _ hjob
      exact (h.each j).still_halted hkeep hjob
  | @passed expected seen task' sw₀ r record fence halted running current authorized generation own
      task_eq =>
    have hholder := hmover.holds rfl
    obtain ⟨-, hnotown⟩ := not_acked_of_holder h.shared hholder
    have hkeep : (s.shared.ks.halted = true → sw₀.ks.halted = true) ∨
        (0 < s.shared.halts → s.shared.resumedSince = true) := by
      rcases halted with hopen | happlies
      · exact .inl (fun hh => by rw [hopen] at hh; cases hh)
      · exact .inr (resumedSince_of_read hmover (hread _ happlies))
    -- no halt is under way: it would still block, and the switch runs
    have hnojob : ∀ j : Fin n, (s.task j).halts = false := by
      intro j
      by_contra hjob
      have hh := (h.each j).still_halted hkeep (by simpa using hjob)
      rw [running] at hh
      cases hh
    refine tasksInv_step ?_ ?_ (hbeside hholder record ?_ ?_)
    · refine switchFence_holder record hholder ?_ (h.shared.still_halted hkeep) h.shared
      intro hown
      have hcontra := own hown
      rw [hnotown] at hcontra
      cases hcontra
    · rw [task_eq]
      split
      · exact taskFence_leasing (fence.trans hholder) current authorized generation
      · next hopen =>
        exact taskFence_inside (fence.trans hholder)
          ⟨rfl, authorized, generation, fun hclosed => absurd hclosed hopen⟩
    · intro j _ hjob
      rw [hnojob j] at hjob
      cases hjob
    · intro j _ hd
      have hjob := Task.halts_of_drained hd
      rw [hnojob j] at hjob
      cases hjob
  | @admitted expected r lease generation issuer =>
    have hholder := hmover.holds rfl
    obtain ⟨hgen, hauth, hrec⟩ := hmover.leases expected r rfl
    have hkeep := hothers .quiet (.inl rfl) (.refl _) rfl (fun hh => hh)
    refine tasksInv_step ?_ ?_ hkeep
    · exact switchFence_quiet (.refl _) rfl (fun hh => hh) (fun hown => .inl hown) h.shared
    · exact taskFence_inside hholder
        ⟨hgen.symm, hauth, hrec, fun _ => ⟨lease, rfl, generation, issuer⟩⟩
  | left record fence halted own inside =>
    have hholder := hmover.holds inside
    obtain ⟨-, hnotown⟩ := not_acked_of_holder h.shared hholder
    refine tasksInv_step ?_ taskFence_idle (hbeside hholder record ?_ (fun _ _ _ => fence))
    · refine switchFence_holder record hholder ?_ ?_ h.shared
      · intro hown
        have hcontra := own hown
        rw [hnotown] at hcontra
        cases hcontra
      · exact h.shared.still_halted (.inl halted)
    · intro j _ hjob
      exact (h.each j).still_halted (.inl halted) hjob

/-! ### Runs -/

theorem halted_of_ownHalted_bootstrap {cfg : Config} {generation : String} {now : Timestamp}
    {answer : StoreAnswer AuthorityRecord}
    (h : (KillSwitch.bootstrap cfg generation now answer).ownHalted cfg = true) :
    (KillSwitch.bootstrap cfg generation now answer).halted = true := by
  have hinitial : ((KillSwitch.initial generation now).ownHalted cfg) = false := rfl
  have hlatch : ∀ reason, (if cfg.failClosedOnAuthorityLoss = true then
      (KillSwitch.initial generation now).latchDegraded reason
      else KillSwitch.initial generation now).ownHalted cfg = false := by
    intro reason
    split <;> rfl
  cases answer with
  | unavailable =>
    rw [KillSwitch.bootstrap, hlatch] at h
    cases h
  | missing =>
    rw [KillSwitch.bootstrap, hlatch] at h
    cases h
  | invalid =>
    rw [KillSwitch.bootstrap, hlatch] at h
    cases h
  | value r =>
    simp only [KillSwitch.bootstrap] at h ⊢
    split at h
    · rw [hlatch] at h
      cases h
    · next hts =>
      rw [if_neg hts]
      unfold KillSwitch.hydrate at h ⊢
      split at h
      · next hhalted =>
        rw [if_pos hhalted]
      · split at h
        · cases h
        · split at h
          · cases h
          · have hcontra : (KillSwitch.initial generation now).ownHalted cfg = true := h
            rw [hinitial] at hcontra
            cases hcontra

theorem fenceInv_start (cfg : Config) (generation : String) (now : Timestamp)
    (answer : StoreAnswer AuthorityRecord) (n : ℕ) :
    TasksInv (SwitchFence cfg) (TaskFence cfg) (Machine.start cfg generation now answer n) where
  shared :=
    { own := fun h => h
      acked := fun h => ⟨halted_of_ownHalted_bootstrap h, rfl⟩
      halted := fun h => absurd h (lt_irrefl 0) }
  each := fun _ => taskFence_idle

/-- **No submission while halted**, in every undisturbed run of any number of coroutines of an
execution authority: once `HALTED` is acknowledged no body runs until a later resume, and every
body that runs was properly admitted. -/
theorem no_submission_while_halted (cfg : Config) (hrole : cfg.isExecutionAuthority = true)
    (generation : String) (now : Timestamp) (answer : StoreAnswer AuthorityRecord) (n : ℕ)
    (steps : List (Fin n × Input)) (s : Machine n)
    (hmeets : Meets (machineStep cfg) (FenceUndisturbed cfg) (.start cfg generation now answer n)
      steps)
    (hrun : run (machineStep cfg) (.start cfg generation now answer n) steps = some s) :
    NoBodyWhileHalted cfg s ∧ ∀ i, BodyAdmitted cfg (s.task i) := by
  have hinv : TasksInv (SwitchFence cfg) (TaskFence cfg) s :=
    run_invariant_of_meets (fenceInv_step cfg hrole) (fenceInv_start cfg generation now answer n)
      hmeets hrun
  refine ⟨?_, fun i => (hinv.each i).admitted⟩
  intro hack i
  have hacked : s.shared.acked = true := by
    rcases hack with hacked | hown
    · exact hacked
    · exact hinv.shared.own hown
  by_contra hinside
  have hpast : (s.task i).pastEntry = true := by
    cases htask : s.task i with
    | guardInside expected record lease current => rfl
    | _ => rw [htask] at hinside; exact absurd rfl hinside
  have hholder := (hinv.each i).holds hpast
  rw [(hinv.shared.acked hacked).2] at hholder
  cases hholder

def liveLease : StoreAnswer Lease :=
  .value { generation := "ksgen-1", issuedBy := "gateway", issuedAt := 1 }

/-- A submission takes the fence, reads the authority and the lease, and runs its body. -/
def submissionRuns : List (Fin 2 × Input) :=
  submissionReads ++ [(0, .authority (.value (runningRecord "ksgen-1" 1)) 3),
    (0, .permission liveLease)]

/-- A halt revokes the lease and publishes, with successes or failures, up to the drain. -/
def haltPublishes (ok : Bool) : List (Fin 2 × Input) :=
  [(1, .proceed 5), (1, .proceed 5), (1, .done ok 5), (1, .done ok 5), (1, .done ok 5)]

/-- A halt waits for the body and then drains the fence. -/
def haltAfterBody : List (Fin 2 × Input) :=
  submissionRuns ++ [(1, .haltAsync "manual" none none "ksgen-2" 4)] ++ haltPublishes true ++
    [(0, .bodyEnds), (1, .proceed 6)]

/-- The same at a run in which a halt waits for a body and then acknowledges `HALTED`. -/
theorem no_submission_while_halted_after_body :
    (switchAfter haltAfterBody).shared.acked = true ∧
      NoBodyWhileHalted executionConfig (switchAfter haltAfterBody) ∧
      ∀ i, BodyAdmitted executionConfig ((switchAfter haltAfterBody).task i) :=
  ⟨by decide +kernel, no_submission_while_halted executionConfig rfl "ksgen-0" 1
    (.value (runningRecord "ksgen-1" 1)) 2 haltAfterBody _ (by decide +kernel)
    (Option.getD_of_ne_none (by decide +kernel) _).symm⟩

/-! ### Disturbed runs -/

/-- A stale read undoes the halt, whose writes fail; the halt drains the fence, and another
submission runs its body when `halt_async` returns. -/
def bodyAtReturn : List (Fin 2 × Input) :=
  staleRead ++ [(0, .permission liveLease), (0, .bodyEnds)] ++ haltPublishes false ++
    [(1, .proceed 6)] ++ submissionRuns ++ haltPublishes false

/-- A halt begins while the submission awaits its lease. -/
def haltDuringLease : List (Fin 2 × Input) :=
  submissionReads ++ [(0, .authority (.value (runningRecord "ksgen-1" 1)) 3),
    (1, .haltAsync "manual" none none "ksgen-2" 4), (0, .permission liveLease)]

/-- A body runs when `halt_async` returns, and a body is admitted under a generation that is no
longer current. -/
theorem body_runs_after_halt_return :
    ¬ (∀ steps s, run (machineStep executionConfig)
        (.start executionConfig "ksgen-0" 1 (.value (runningRecord "ksgen-1" 1)) 2) steps = some s →
        NoBodyWhileHalted executionConfig s ∧ ∀ i, BodyAdmitted executionConfig (s.task i)) ∧
      ¬ NoBodyWhileHalted executionConfig (switchAfter bodyAtReturn) ∧
      ¬ BodyAdmitted executionConfig ((switchAfter haltDuringLease).task 0) := by
  have hbody : ¬ NoBodyWhileHalted executionConfig (switchAfter bodyAtReturn) := by decide +kernel
  refine ⟨?_, hbody, by decide +kernel⟩
  intro h
  exact hbody (h bodyAtReturn _ (Option.getD_of_ne_none (by decide +kernel) _).symm).1

end Aats.Governance
