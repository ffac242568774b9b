import Aats.Governance.ProfileApplySaga
import Aats.Lib.Runs

/-!
# Repeating the parameter apply until it ends

What a recommendation's apply leaves in the two databases, over every sequence of calls that fail
somewhere and one call that does not.

Two facts carry the argument. The live rows are at every commit the rows of before or those with
all patches. And as long as no call loses the mark of a step that is already in the live database,
what is committed is the start, or the start with the first `k` steps of one operation done.

## Main definitions
* `Pending P research live` — sessions whose committed copies satisfy `P`, with open writes.
* `Begun start args id k` — the first `k` steps of one operation are committed.
* `LosesNoMark` — what a call must not do for the saga to stay resumable.

## Main results
* `callSaga_activations` — **no call leaves the live payload partly patched**, whatever fails.
* `applyProfileSaga_takesEffectOnce` — **a recommendation takes effect once**, if no failed call
  loses a mark.
-/

namespace Aats.Governance

open CrashTriple

/-! ### The patched payload -/

theorem Payload.get_jsonbSet (payload : Payload) (key k : String) (value : PayloadValue) :
    (jsonbSet payload key value).get k = if k = key then some value else payload.get k := by
  unfold Payload.get jsonbSet
  rw [KeyedList.lookup_upsert]
  split
  · rfl
  · rfl

def patchPayload (patches : List ThresholdPatch) (payload : Payload) : Payload :=
  patches.foldl (fun payload patch => jsonbSet payload patch.key (.number patch.toValue)) payload

theorem Payload.get_patchPayload_of_ne {patches : List ThresholdPatch} {payload : Payload}
    {key : String} (h : key ∉ patches.map ThresholdPatch.key) :
    (patchPayload patches payload).get key = payload.get key := by
  induction patches generalizing payload with
  | nil => rfl
  | cons patch patches ih =>
    rw [List.map_cons, List.mem_cons, not_or] at h
    change (patchPayload patches _).get key = _
    rw [ih h.2, Payload.get_jsonbSet, if_neg h.1]

theorem Payload.get_patchPayload {patches : List ThresholdPatch} {payload : Payload}
    (hnodup : (patches.map ThresholdPatch.key).Nodup) {patch : ThresholdPatch}
    (h : patch ∈ patches) :
    (patchPayload patches payload).get patch.key = some (.number patch.toValue) := by
  induction patches generalizing payload with
  | nil => exact absurd h List.not_mem_nil
  | cons first patches ih =>
    rw [List.map_cons, List.nodup_cons] at hnodup
    change (patchPayload patches _).get patch.key = _
    obtain rfl | hrest := List.mem_cons.mp h
    · rw [Payload.get_patchPayload_of_ne hnodup.1, Payload.get_jsonbSet, if_pos rfl]
    · exact ih hnodup.2 hrest

def patchRow (patches : List ThresholdPatch) (activationId : String) (row : ProfileActivation) :
    ProfileActivation :=
  if row.activationId = activationId then
    { row with payload := patchPayload patches row.payload }
  else row

theorem patchRow_nil (activationId : String) : patchRow [] activationId = id := by
  funext row
  unfold patchRow
  split
  · rfl
  · rfl

theorem foldl_updatePayload (patches : List ThresholdPatch) (activationId : String)
    (rows : List ProfileActivation) :
    patches.foldl (fun rows patch => updatePayload rows activationId patch) rows =
      rows.map (patchRow patches activationId) := by
  induction patches generalizing rows with
  | nil => rw [List.foldl_nil, patchRow_nil, List.map_id]
  | cons patch patches ih =>
    rw [List.foldl_cons, ih]
    unfold updatePayload
    rw [List.map_map]
    apply List.map_congr_left
    intro row _
    unfold patchRow
    by_cases h : row.activationId = activationId
    · simp [h, patchPayload]
    · simp [h]

variable {args : ApplyArguments} {row : ProfileActivation} {rows : List ProfileActivation}

/-- The keys of the patches are those that the saga may write. -/
def Whitelisted (args : ApplyArguments) : Prop :=
  ∀ patch ∈ args.thresholdPatches.items, patch.key ∈ payloadWhitelist

/-- Each patch changes the value of its key. -/
def Moves (args : ApplyArguments) : Prop :=
  ∀ patch ∈ args.thresholdPatches.items, patch.fromValue ≠ some patch.toValue

def patched (args : ApplyArguments) (rows : List ProfileActivation) : List ProfileActivation :=
  match findActivation rows args.profileId with
  | none => rows
  | some row => rows.map (patchRow args.thresholdPatches.items row.activationId)

theorem isOf_patchRow (hwhite : Whitelisted args) (activationId : String) :
    (patchRow args.thresholdPatches.items activationId row).isOf args.profileId =
      row.isOf args.profileId := by
  have hkey : "profile_id" ∉ args.thresholdPatches.items.map ThresholdPatch.key := by
    intro h
    obtain ⟨patch, hpatch, heq⟩ := List.mem_map.mp h
    exact absurd (heq ▸ hwhite patch hpatch) (by decide)
  unfold patchRow ProfileActivation.isOf
  split
  · rw [Payload.get_patchPayload_of_ne hkey]
  · rfl

theorem findActivation_patched (hwhite : Whitelisted args)
    (hrow : findActivation rows args.profileId = some row) :
    findActivation (patched args rows) args.profileId =
      some { row with payload := patchPayload args.thresholdPatches.items row.payload } := by
  have hsame : (fun row => row.isOf args.profileId) ∘
      patchRow args.thresholdPatches.items row.activationId = fun row => row.isOf args.profileId :=
    funext fun _ => isOf_patchRow hwhite _
  unfold patched
  rw [hrow]
  unfold findActivation at hrow ⊢
  rw [List.find?_map, hsame, hrow, Option.map_some, patchRow, if_pos rfl]

/-! ### The baseline check -/

theorem driftErrors_eq_nil {payload : Payload} {patches : List ThresholdPatch} :
    driftErrors payload patches = [] ↔
      ∀ patch ∈ patches, equalsExpected (payload.get patch.key) patch.fromValue = true := by
  unfold driftErrors
  rw [List.filterMap_eq_nil_iff]
  apply forall₂_congr
  intro patch _
  split
  · next h => exact iff_of_true rfl h
  · next h => exact iff_of_false nofun h

theorem driftErrors_patchPayload (hmoves : Moves args) {payload : Payload}
    (h : driftErrors (patchPayload args.thresholdPatches.items payload)
      args.thresholdPatches.items = []) : args.thresholdPatches.items = [] := by
  rw [driftErrors_eq_nil] at h
  by_contra hne
  obtain ⟨patch, hpatch⟩ := List.exists_mem_of_ne_nil _ hne
  have hequal := h patch hpatch
  rw [Payload.get_patchPayload args.thresholdPatches.nodup hpatch] at hequal
  exact hmoves patch hpatch (by simpa [equalsExpected] using hequal)

/-! ### Sessions with open writes -/

/-- Sessions on committed databases that satisfy `P`, with what the open transactions wrote. -/
def Pending (P : Databases → Prop) (research : ResearchDb → ResearchDb) (live : LiveDb → LiveDb)
    (sessions : Sessions) : Prop :=
  ∃ dbs, P dbs ∧ sessions =
    ⟨⟨dbs.research, research dbs.research⟩, ⟨dbs.live, live dbs.live⟩⟩

/-- What a call that raises leaves committed. -/
abbrev Left (R : Databases → Prop) (_ : Interruption) (sessions : Sessions) : Prop :=
  R sessions.committed

theorem Pending.committed {P : Databases → Prop} {research : ResearchDb → ResearchDb}
    {live : LiveDb → LiveDb} {sessions : Sessions} (h : Pending P research live sessions) :
    P sessions.committed := by
  obtain ⟨dbs, hP, rfl⟩ := h
  exact hP

variable {attempt : Attempt} {place : SagaPlace} {P Q R : Databases → Prop}
  {research action : ResearchDb → ResearchDb} {live write : LiveDb → LiveDb}

/-- A failure at a place of the call, where `P` is committed, leaves `R`. -/
def Tolerates (attempt : Attempt) (P R : Databases → Prop) (place : SagaPlace) : Prop :=
  attempt.fault place ≠ none → ∀ dbs, P dbs → R dbs

theorem Tolerates.raise {dbs : Databases} {e : Interruption} (h : Tolerates attempt P R place)
    (he : attempt.fault place = some e) (hP : P dbs) : R dbs :=
  h (he ▸ Option.some_ne_none e) dbs hP

theorem triple_statement {program : Sessions → Sessions} {after : Sessions → Prop}
    (hfault : Tolerates attempt P R place)
    (hprogram : ∀ s, Pending P research live s → after (program s)) :
    Triple (Pending P research live) (statement (attempt.fault place) program) (fun _ => after)
      (Left R) :=
  Triple.statement
    (fun _ he _ hs => hfault.raise he hs.committed)
    (fun _ => hprogram)

theorem triple_read (hfault : Tolerates attempt P R place) :
    Triple (Pending P research live) (statement (attempt.fault place) id)
      (fun _ => Pending P research live) (Left R) :=
  triple_statement hfault (fun _ hs => hs)

theorem triple_onResearch (hfault : Tolerates attempt P R place) :
    Triple (Pending P research live) (onResearch attempt place action)
      (fun _ => Pending P (fun db => action (research db)) live) (Left R) := by
  apply triple_statement hfault
  rintro _ ⟨dbs, hP, rfl⟩
  exact ⟨dbs, hP, rfl⟩

theorem triple_commitResearch (hfault : Tolerates attempt P R place)
    (heffect : ∀ dbs, P dbs → Q ⟨research dbs.research, dbs.live⟩) :
    Triple (Pending P research live) (commitResearch attempt place)
      (fun _ => Pending Q id live) (Left R) := by
  apply triple_statement hfault
  rintro _ ⟨dbs, hP, rfl⟩
  exact ⟨⟨research dbs.research, dbs.live⟩, heffect dbs hP, rfl⟩

theorem triple_commitLive {step : SagaStep} (hfault : Tolerates attempt P R (.commitLive step))
    (heffect : ∀ dbs, P dbs → Q ⟨dbs.research, live dbs.live⟩) :
    Triple (Pending P research live) (commitLive attempt step)
      (fun _ => Pending Q research id) (Left R) := by
  apply triple_statement hfault
  rintro _ ⟨dbs, hP, rfl⟩
  exact ⟨⟨dbs.research, live dbs.live⟩, heffect dbs hP, rfl⟩

theorem triple_finishStep {op : SagaOperation} {step : SagaStep}
    (hmark : Tolerates attempt P R (.markStep step))
    (hcommit : Tolerates attempt P R (.commitStep step))
    (heffect : ∀ dbs, P dbs →
      Q ⟨(research dbs.research).updateOperation op.operationId (·.markDone step), dbs.live⟩) :
    Triple (Pending P research id) (finishStep attempt op step) (fun _ => Pending Q id id)
      (Left R) :=
  (triple_onResearch hmark).bind fun _ => triple_commitResearch hcommit heffect

/-! ### The functions of a call -/

theorem triple_findOrCreate {P' : SagaOperation → Databases → Prop}
    (hfault : ∀ place, Tolerates attempt P R place)
    (hcreated : Tolerates attempt (P' (newOperation args attempt.operationId)) R .created)
    (hfound : ∀ dbs op, P dbs → (dbs.research.unfinished args.recommendationId).head? = some op →
      P' op dbs)
    (hnew : ∀ dbs, P dbs → (dbs.research.unfinished args.recommendationId).head? = none →
      P' (newOperation args attempt.operationId)
        ⟨{ dbs.research with
            operations := newOperation args attempt.operationId :: dbs.research.operations },
          dbs.live⟩) :
    Triple (Pending P id id) (findOrCreateSagaOperation attempt args)
      (fun op => Pending (P' op) id id) (Left R) := by
  refine (triple_read (hfault _)).bind fun _ => Triple.get_bind fun now => ?_
  cases hhead : (now.research.working.unfinished args.recommendationId).head? with
  | some op =>
    apply Triple.pure
    rintro _ ⟨⟨dbs, hP, rfl⟩, rfl⟩
    exact ⟨dbs, hfound dbs op hP hhead, rfl⟩
  | none =>
    let P₀ : Databases → Prop := fun dbs =>
      P dbs ∧ (dbs.research.unfinished args.recommendationId).head? = none
    have hweak : ∀ place, Tolerates attempt P₀ R place := fun place hplace dbs hdbs =>
      hfault place hplace dbs hdbs.1
    have hstart : ∀ s, Pending P id id s ∧ s = now → Pending P₀ id id s := by
      rintro _ ⟨⟨dbs, hP, rfl⟩, rfl⟩
      exact ⟨dbs, ⟨hP, hhead⟩, rfl⟩
    refine Triple.strengthen ?_ hstart
    refine (triple_onResearch (hweak _)).bind fun _ => ?_
    refine (triple_commitResearch (hweak _) fun dbs hdbs => hnew dbs hdbs.1 hdbs.2).bind fun _ => ?_
    exact (triple_read hcreated).bind fun _ => Triple.pure fun _ hs => hs

theorem triple_unlessDone {pre post : Sessions → Prop} {done : Bool} {body : SagaM Unit}
    (hdone : done = true → ∀ s, pre s → post s)
    (hbody : done = false → Triple pre body (fun _ => post) (Left R)) :
    Triple pre (unlessDone done body) (fun _ => post) (Left R) :=
  Triple.ite (fun h => Triple.pure (hdone h)) (fun h => hbody (by simpa using h))

theorem triple_step1 {op : SagaOperation} (hfault : ∀ place, Tolerates attempt P R place)
    (heffect : ∀ dbs, P dbs →
      Q ⟨ResearchDb.updateOperation
        { dbs.research with
          activeParameterSets := KeyedList.upsert ActiveParameterSet.scopeRef
            dbs.research.activeParameterSets (newActiveParameterSet args op) }
        op.operationId (·.markDone .step1), dbs.live⟩) :
    Triple (Pending P id id)
      (do
        step1UpsertActive attempt args op
        finishStep attempt op .step1)
      (fun _ => Pending Q id id) (Left R) :=
  (triple_onResearch (hfault _)).bind fun _ => triple_finishStep (hfault _) (hfault _) heffect

theorem triple_step2 {op : SagaOperation} (hfault : ∀ place, Tolerates attempt P R place)
    (heffect : ∀ dbs, P dbs →
      Q ⟨ResearchDb.updateOperation
        { dbs.research with
          applyHistory := insertIfAbsent ParameterApplyRow.operationId dbs.research.applyHistory
            (newApplyRow args op) }
        op.operationId (·.markDone .step2), dbs.live⟩) :
    Triple (Pending P id id)
      (do
        step2AppendHistory attempt args op
        finishStep attempt op .step2)
      (fun _ => Pending Q id id) (Left R) :=
  (triple_onResearch (hfault _)).bind fun _ => triple_finishStep (hfault _) (hfault _) heffect

def BaselineHolds (args : ApplyArguments) (rows : List ProfileActivation) : Prop :=
  ∃ row, findActivation rows args.profileId = some row ∧
    driftErrors row.payload args.thresholdPatches.items = []

/-- Step 3 raises without a write, or the baseline holds and all patches are written. -/
theorem triple_step3UpdateLivePayload (hwhite : Whitelisted args)
    (hfault : ∀ place, Tolerates attempt P R place)
    (hdrift : ∀ dbs, P dbs → ¬ BaselineHolds args dbs.live.activations → R dbs) :
    Triple (Pending P id id) (step3UpdateLivePayload attempt args)
      (fun _ => Pending (fun dbs => P dbs ∧ BaselineHolds args dbs.live.activations) id
        fun db => { db with activations := patched args db.activations })
      (Left R) := by
  have hallowed : args.thresholdPatches.items.find? (fun patch => patch.key ∉ payloadWhitelist) =
      none := by
    rw [List.find?_eq_none]
    intro patch hpatch
    simpa using hwhite patch hpatch
  unfold step3UpdateLivePayload
  rw [hallowed]
  refine (triple_read (hfault _)).bind fun _ => Triple.get_bind fun now => ?_
  cases hfind : findActivation now.live.working.activations args.profileId with
  | none =>
    apply Triple.throw
    rintro _ ⟨⟨dbs, hP, rfl⟩, rfl⟩
    refine hdrift dbs hP ?_
    rintro ⟨row, hrow, -⟩
    exact absurd (hrow.symm.trans hfind) nofun
  | some row =>
    apply Triple.ite
    · intro herrors
      apply Triple.throw
      rintro _ ⟨⟨dbs, hP, rfl⟩, rfl⟩
      refine hdrift dbs hP ?_
      rintro ⟨other, hother, hnone⟩
      obtain rfl : other = row := Option.some.inj (hother.symm.trans hfind)
      exact herrors hnone
    · intro herrors
      -- the writes that are still to come lead from the working rows to the patched ones
      let invariant : List ThresholdPatch → Sessions → Prop := fun todo s =>
        ∃ dbs rows, (P dbs ∧ BaselineHolds args dbs.live.activations) ∧
          todo.foldl (fun rows patch => updatePayload rows row.activationId patch) rows =
            patched args dbs.live.activations ∧
          s = ⟨⟨dbs.research, dbs.research⟩, ⟨dbs.live, { dbs.live with activations := rows }⟩⟩
      refine Triple.consequence
        (Triple.forM invariant args.thresholdPatches.items fun patch rest _ => ?_) ?_ ?_
        (fun _ _ h => h)
      · apply Triple.statement
        · rintro e he _ ⟨dbs, rows, ⟨hP, -⟩, -, rfl⟩
          exact (hfault _).raise he hP
        · rintro - _ ⟨dbs, rows, hP, hrest, rfl⟩
          exact ⟨dbs, updatePayload rows row.activationId patch, hP, hrest, rfl⟩
      · rintro _ ⟨⟨dbs, hP, rfl⟩, rfl⟩
        refine ⟨dbs, dbs.live.activations, ⟨hP, row, hfind, not_not.mp herrors⟩, ?_, rfl⟩
        have hrow : findActivation dbs.live.activations args.profileId = some row := hfind
        unfold patched
        rw [foldl_updatePayload, hrow]
      · rintro _ _ ⟨dbs, rows, hP, hrows, rfl⟩
        refine ⟨dbs, hP, ?_⟩
        rw [List.foldl_nil] at hrows
        rw [hrows]
        rfl

/-- The live tables after the event of step 4. -/
def withEvent (args : ApplyArguments) (op : SagaOperation) (db : LiveDb) : LiveDb :=
  match findActivation db.activations args.profileId with
  | none => db
  | some row =>
    { db with
      activationHistory := insertIfAbsent ProfileActivationEvent.activationEventId
        db.activationHistory (newActivationEvent args op row) }

theorem activations_withEvent (op : SagaOperation) (db : LiveDb) :
    (withEvent args op db).activations = db.activations := by
  unfold withEvent
  split
  · rfl
  · rfl

theorem triple_step4AppendLiveHistory {op : SagaOperation}
    (hfault : ∀ place, Tolerates attempt P R place)
    (hmissing : ∀ dbs, P dbs → findActivation dbs.live.activations args.profileId = none → R dbs) :
    Triple (Pending P id id) (step4AppendLiveHistory attempt args op)
      (fun _ => Pending P id (withEvent args op)) (Left R) := by
  refine (triple_read (hfault _)).bind fun _ => Triple.get_bind fun now => ?_
  cases hfind : findActivation now.live.working.activations args.profileId with
  | none =>
    apply Triple.throw
    rintro _ ⟨⟨dbs, hP, rfl⟩, rfl⟩
    exact hmissing dbs hP hfind
  | some row =>
    apply Triple.statement
    · rintro e he _ ⟨⟨dbs, hP, rfl⟩, -⟩
      exact (hfault _).raise he hP
    · rintro - _ ⟨⟨dbs, hP, rfl⟩, rfl⟩
      have hrow : findActivation dbs.live.activations args.profileId = some row := hfind
      refine ⟨dbs, hP, ?_⟩
      unfold withEvent
      rw [hrow]
      rfl

theorem triple_ignoring {pre post : Sessions → Prop} {body : SagaM Unit}
    (h : Triple pre body (fun _ => post) (fun _ => post)) :
    Triple pre (ignoring body) (fun _ => post) (fun _ => post) := by
  refine h.guarded fun e => ?_
  cases e with
  | crash => exact Triple.throw fun _ hs => hs
  | raised error => exact Triple.pure fun _ hs => hs

theorem triple_recordSagaError {op : SagaOperation} {error : SagaException}
    (hmark : ∀ dbs, R dbs → R ⟨dbs.research.updateOperation op.operationId
      fun row => { row with lastError := some error }, dbs.live⟩) :
    Triple (fun s => R s.committed) (recordSagaError attempt op error)
      (fun _ s => R s.committed) (Left R) := by
  refine (triple_ignoring ?_).bind fun _ => triple_ignoring ?_
  · exact Triple.statement (fun _ _ _ hs => hs) (fun _ _ hs => hs)
  · have hrollback : Triple (fun s : Sessions => R s.committed)
        (statement (attempt.handlerFaults .rollbackResearch) fun sessions =>
          { sessions with research := sessions.research.rollback })
        (fun _ s => R s.committed ∧ s.research.working = s.research.committed) (Left R) :=
      Triple.statement (fun _ _ _ hs => hs) (fun _ _ hs => ⟨hs, rfl⟩)
    refine hrollback.bind fun _ => ?_
    have hwrite : Triple
        (fun s : Sessions => R s.committed ∧ s.research.working = s.research.committed)
        (statement (attempt.handlerFaults .markError) fun sessions =>
          { sessions with research := sessions.research.write fun db =>
              db.updateOperation op.operationId fun row => { row with lastError := some error } })
        (fun _ s => R s.committed ∧ R ⟨s.research.working, s.live.committed⟩) (Left R) := by
      refine Triple.statement (fun _ _ _ hs => hs.1) (fun _ s hs => ⟨hs.1, ?_⟩)
      have hmarked := hmark s.committed hs.1
      rw [Session.working_write, hs.2]
      exact hmarked
    refine hwrite.bind fun _ => ?_
    exact Triple.statement (fun _ _ _ hs => hs.1) (fun _ _ hs => hs.2)

theorem triple_applyProfileSaga {op : SagaOperation} {pre : Sessions → Prop}
    (hsteps : Triple pre (sagaSteps attempt args op) (fun _ => Pending Q id id) (Left R))
    (hmark : ∀ error dbs, R dbs → R ⟨dbs.research.updateOperation op.operationId
      fun row => { row with lastError := some error }, dbs.live⟩) :
    Triple pre (applyProfileSaga attempt args op)
      (fun result s => result.operationId = op.operationId ∧
        if result.ok then Q s.committed else R s.committed) (Left R) := by
  have hbody : Triple pre
      (do
        sagaSteps attempt args op
        pure (SagaResult.mk op.operationId true none 4))
      (fun result s => result.operationId = op.operationId ∧
        if result.ok then Q s.committed else R s.committed) (Left R) :=
    hsteps.bind fun _ => Triple.pure fun s hs => ⟨rfl, hs.committed⟩
  refine hbody.guarded fun e => ?_
  cases e with
  | crash => exact Triple.throw fun _ hs => hs
  | raised error =>
    exact (triple_recordSagaError (hmark error)).bind fun _ => Triple.pure fun s hs => ⟨rfl, hs⟩

/-! ### The live payload is never partly patched -/

/-- The live rows are those of before, or those with all patches. -/
def Intact (args : ApplyArguments) (before : List ProfileActivation) (dbs : Databases) : Prop :=
  dbs.live.activations = before ∨ dbs.live.activations = patched args before

variable {before : List ProfileActivation}

theorem patched_of_nil (h : args.thresholdPatches.items = []) : patched args rows = rows := by
  unfold patched
  split
  · rfl
  · rw [h, patchRow_nil, List.map_id]

theorem patched_eq_of_baselineHolds (hwhite : Whitelisted args) (hmoves : Moves args)
    (h : BaselineHolds args (patched args rows)) :
    patched args (patched args rows) = patched args rows := by
  obtain ⟨row, hrow, hbaseline⟩ := h
  cases hfind : findActivation rows args.profileId with
  | none =>
    have hsame : patched args rows = rows := by
      unfold patched
      rw [hfind]
    rw [hsame, hfind] at hrow
    exact absurd hrow nofun
  | some old =>
    rw [findActivation_patched hwhite hfind] at hrow
    cases hrow
    exact patched_of_nil (driftErrors_patchPayload hmoves hbaseline)

theorem intact_patched (hwhite : Whitelisted args) (hmoves : Moves args) {dbs : Databases}
    (h : Intact args before dbs) (hbaseline : BaselineHolds args dbs.live.activations) :
    patched args dbs.live.activations = patched args before := by
  obtain h | h := h
  · rw [h]
  · rw [h] at hbaseline ⊢
    exact patched_eq_of_baselineHolds hwhite hmoves hbaseline

theorem triple_sagaSteps_intact (hwhite : Whitelisted args) (hmoves : Moves args)
    (op : SagaOperation) :
    Triple (Pending (Intact args before) id id) (sagaSteps attempt args op)
      (fun _ => Pending (Intact args before) id id) (Left (Intact args before)) := by
  have hfault : ∀ P, (∀ dbs, P dbs → Intact args before dbs) →
      ∀ place, Tolerates attempt P (Intact args before) place :=
    fun _ h _ _ dbs hdbs => h dbs hdbs
  have hself := hfault _ fun _ h => h
  refine (triple_unlessDone (fun _ _ h => h) fun _ =>
    triple_step1 hself fun _ h => h).bind fun _ => ?_
  refine (triple_unlessDone (fun _ _ h => h) fun _ =>
    triple_step2 hself fun _ h => h).bind fun _ => ?_
  refine (triple_unlessDone (fun _ _ h => h) fun _ => ?_).bind fun _ => ?_
  · refine (triple_step3UpdateLivePayload hwhite hself fun _ h _ => h).bind fun _ => ?_
    refine (triple_commitLive (hfault _ (fun _ h => h.1) _) fun dbs h => ?_).bind fun _ =>
      triple_finishStep (hself _) (hself _) fun _ h => h
    exact Or.inr (intact_patched hwhite hmoves h.1 h.2)
  refine (triple_unlessDone (fun _ _ h => h) fun _ => ?_).bind fun _ => triple_read (hself _)
  refine (triple_step4AppendLiveHistory hself fun _ h _ => h).bind fun _ => ?_
  refine (triple_commitLive (hself _) fun dbs h => ?_).bind fun _ =>
    triple_finishStep (hself _) (hself _) fun _ h => h
  unfold Intact
  rw [activations_withEvent]
  exact h

/-- **No call leaves the live payload partly patched**, at whatever place it fails and whatever the
earlier calls left. -/
theorem callSaga_activations (hwhite : Whitelisted args) (hmoves : Moves args) {dbs : Databases}
    (h : Intact args before dbs) : Intact args before (callSaga args dbs attempt).2 := by
  have hfault : ∀ place, Tolerates attempt (Intact args before) (Intact args before) place :=
    fun _ _ _ h => h
  have hcall : Triple (Pending (Intact args before) id id) (sagaCall attempt args)
      (fun _ s => Intact args before s.committed) (Left (Intact args before)) := by
    refine (triple_findOrCreate hfault (hfault _) (fun _ _ h _ => h) (fun _ h _ => h)).bind
      fun op => ?_
    refine (triple_applyProfileSaga (triple_sagaSteps_intact hwhite hmoves op)
      fun _ _ h => h).consequence (fun _ hs => hs) (fun result s hs => ?_) (fun _ _ hs => hs)
    obtain ⟨-, hs⟩ := hs
    split at hs
    · exact hs
    · exact hs
  have hrun := hcall (.open dbs) ⟨dbs, h, rfl⟩
  unfold callSaga
  cases hsaga : sagaCall attempt args (.open dbs) with
  | ok result sessions =>
    rw [hsaga] at hrun
    exact hrun
  | error e sessions =>
    rw [hsaga] at hrun
    exact hrun

/-! ### The progress of an operation -/

/-- The row of an operation with its first `k` steps done. -/
def operationAt (args : ApplyArguments) (operationId : String) (k : ℕ)
    (lastError : Option SagaException) : SagaOperation :=
  { newOperation args operationId with
    step1Done := 1 ≤ k
    step2Done := 2 ≤ k
    step3Done := 3 ≤ k
    step4Done := 4 ≤ k
    lastError := lastError }

/-- What the first `k` steps of an operation left in the tables. -/
structure Written (start : Databases) (args : ApplyArguments) (operationId : String) (k : ℕ)
    (dbs : Databases) : Prop where
  active : 1 ≤ k → KeyedList.lookup ActiveParameterSet.scopeRef
    dbs.research.activeParameterSets args.profileId =
      some (newActiveParameterSet args (newOperation args operationId))
  history : dbs.research.applyHistory = start.research.applyHistory ++
    if 2 ≤ k then [newApplyRow args (newOperation args operationId)] else []
  activations : dbs.live.activations =
    if 3 ≤ k then patched args start.live.activations else start.live.activations

/-- The first `k` steps of one operation are committed; the event may be there before its mark. -/
structure Begun (start : Databases) (args : ApplyArguments) (row : ProfileActivation)
    (operationId : String) (k : ℕ) (dbs : Databases) : Prop where
  operation : ∃ lastError, dbs.research.unfinished args.recommendationId =
    [operationAt args operationId k lastError]
  written : Written start args operationId k dbs
  events : dbs.live.activationHistory = start.live.activationHistory ∨
    (3 ≤ k ∧ dbs.live.activationHistory = start.live.activationHistory ++
      [newActivationEvent args (newOperation args operationId) row])

structure Ended (start : Databases) (args : ApplyArguments) (row : ProfileActivation)
    (operationId : String) (dbs : Databases) : Prop where
  written : Written start args operationId 4 dbs
  events : dbs.live.activationHistory = start.live.activationHistory ++
    [newActivationEvent args (newOperation args operationId) row]

structure Unused (start : Databases) (operationId : String) : Prop where
  operations : ∀ op ∈ start.research.operations, op.operationId ≠ operationId
  history : ∀ row ∈ start.research.applyHistory, row.operationId ≠ operationId
  events : ∀ event ∈ start.live.activationHistory,
    event.activationEventId ≠ "rdp_apply:" ++ operationId

variable {start dbs : Databases} {operationId : String} {k : ℕ} {lastError : Option SagaException}

theorem filter_map_filter {α : Type} {keep : α → Bool} {change : α → α}
    (h : ∀ a, keep a = false → keep (change a) = false) (items : List α) :
    (items.map change).filter keep = ((items.filter keep).map change).filter keep := by
  induction items with
  | nil => rfl
  | cons first items ih =>
    cases hfirst : keep first with
    | true =>
      rw [List.filter_cons_of_pos hfirst, List.map_cons, List.map_cons, List.filter_cons,
        List.filter_cons, ih]
    | false =>
      rw [List.filter_cons_of_neg (by simp [hfirst]), List.map_cons,
        List.filter_cons_of_neg (by simp [h first hfirst]), ih]

theorem unfinished_updateOperation {db : ResearchDb} {op : SagaOperation} (id : String)
    (update : SagaOperation → SagaOperation)
    (hdropped : ∀ row, row.isUnfinished args.recommendationId = false →
      (update row).isUnfinished args.recommendationId = false)
    (h : db.unfinished args.recommendationId = [op]) :
    (db.updateOperation id update).unfinished args.recommendationId =
      [if op.operationId = id then update op else op].filter
        (·.isUnfinished args.recommendationId) := by
  unfold ResearchDb.unfinished ResearchDb.updateOperation at *
  rw [filter_map_filter, h, List.map_singleton]
  intro row hrow
  split
  · exact hdropped row hrow
  · exact hrow

theorem unfinished_markDone {db : ResearchDb} {op : SagaOperation} (step : SagaStep)
    (h : db.unfinished args.recommendationId = [op]) :
    (db.updateOperation op.operationId (·.markDone step)).unfinished args.recommendationId =
      [op.markDone step].filter (·.isUnfinished args.recommendationId) := by
  rw [unfinished_updateOperation op.operationId _ (fun row hrow => ?_) h, if_pos rfl]
  cases step with
  | step1 => exact hrow
  | step2 => exact hrow
  | step3 => exact hrow
  | step4 => simp [SagaOperation.isUnfinished, SagaOperation.markDone]

theorem isUnfinished_operationAt (h : k < 4) :
    (operationAt args operationId k lastError).isUnfinished args.recommendationId = true := by
  simp [SagaOperation.isUnfinished, operationAt, newOperation, h]

theorem insertIfAbsent_of_unused {α : Type} {key : α → String} {rows : List α} {new : α}
    (h : ∀ row ∈ rows, key row ≠ key new) : insertIfAbsent key rows new = rows ++ [new] := by
  unfold insertIfAbsent
  rw [KeyedList.lookup_eq_none.mpr h]
  rfl

theorem insertIfAbsent_of_last {α : Type} {key : α → String} {rows : List α} {new : α} :
    insertIfAbsent key (rows ++ [new]) new = rows ++ [new] := by
  unfold insertIfAbsent
  have hfound : (KeyedList.lookup key (rows ++ [new]) (key new)).isSome = true := by
    rw [KeyedList.lookup, List.find?_isSome]
    exact ⟨new, List.mem_append_right _ (List.mem_singleton_self new), by simp⟩
  rw [if_pos hfound]

/-! ### One step after the other -/

theorem Begun.markDone (h : Begun start args row operationId k dbs) {step : SagaStep} {k' : ℕ}
    (hstep : ∀ error, (operationAt args operationId k error).markDone step =
      operationAt args operationId k' none) (hk' : k' < 4) {research : ResearchDb}
    (hresearch : research.operations = dbs.research.operations) :
    (research.updateOperation operationId (·.markDone step)).unfinished args.recommendationId =
      [operationAt args operationId k' none] := by
  obtain ⟨error, hop⟩ := h.operation
  have hunfinished : research.unfinished args.recommendationId =
      [operationAt args operationId k error] := by
    unfold ResearchDb.unfinished at hop ⊢
    rw [hresearch, hop]
  have hmarked := unfinished_markDone step hunfinished
  rw [hstep, List.filter_cons_of_pos (isUnfinished_operationAt hk')] at hmarked
  exact hmarked

theorem begun_newOperation (hnone : start.research.unfinished args.recommendationId = []) :
    Begun start args row operationId 0
      ⟨{ start.research with
          operations := newOperation args operationId :: start.research.operations },
        start.live⟩ := by
  refine ⟨⟨none, ?_⟩, ⟨fun h => absurd h (by decide), (List.append_nil _).symm, rfl⟩, Or.inl rfl⟩
  have hnew : (newOperation args operationId).isUnfinished args.recommendationId = true :=
    isUnfinished_operationAt (by decide : 0 < 4)
  exact (List.filter_cons_of_pos hnew).trans (congrArg _ hnone)

theorem Begun.markError (h : Begun start args row operationId k dbs) (hk : k ≤ 3) (id : String)
    (error : SagaException) :
    Begun start args row operationId k
      ⟨dbs.research.updateOperation id fun row => { row with lastError := some error },
        dbs.live⟩ := by
  refine ⟨?_, ⟨h.written.active, h.written.history, h.written.activations⟩, h.events⟩
  obtain ⟨old, hop⟩ := h.operation
  have hunfinished := unfinished_updateOperation id
    (fun row => { row with lastError := some error }) (fun _ hrow => hrow) hop
  split at hunfinished
  · refine ⟨some error, hunfinished.trans (List.filter_cons_of_pos ?_)⟩
    exact isUnfinished_operationAt (by omega)
  · refine ⟨old, hunfinished.trans (List.filter_cons_of_pos ?_)⟩
    exact isUnfinished_operationAt (by omega)

theorem Begun.step1 (h : Begun start args row operationId 0 dbs) :
    Begun start args row operationId 1
      ⟨ResearchDb.updateOperation
        { dbs.research with
          activeParameterSets := KeyedList.upsert ActiveParameterSet.scopeRef
            dbs.research.activeParameterSets
            (newActiveParameterSet args (newOperation args operationId)) }
        operationId (·.markDone .step1), dbs.live⟩ := by
  refine ⟨⟨none, h.markDone (fun _ => rfl) (by decide) rfl⟩,
    ⟨fun _ => ?_, h.written.history, h.written.activations⟩, Or.inl ?_⟩
  · exact (KeyedList.lookup_upsert ..).trans (if_pos rfl)
  · exact h.events.resolve_right fun h => absurd h.1 (by decide)

theorem Begun.step2 (hunused : Unused start operationId)
    (h : Begun start args row operationId 1 dbs) :
    Begun start args row operationId 2
      ⟨ResearchDb.updateOperation
        { dbs.research with
          applyHistory := insertIfAbsent ParameterApplyRow.operationId dbs.research.applyHistory
            (newApplyRow args (newOperation args operationId)) }
        operationId (·.markDone .step2), dbs.live⟩ := by
  refine ⟨⟨none, h.markDone (fun _ => rfl) (by decide) rfl⟩,
    ⟨fun _ => h.written.active (by decide), ?_, h.written.activations⟩, Or.inl ?_⟩
  · have hhistory : dbs.research.applyHistory = start.research.applyHistory :=
      h.written.history.trans (List.append_nil _)
    change insertIfAbsent ParameterApplyRow.operationId dbs.research.applyHistory _ = _
    rw [hhistory, insertIfAbsent_of_unused hunused.history]
    rfl
  · exact h.events.resolve_right fun h => absurd h.1 (by decide)

/-- Between the commit of step 3 and the commit of its mark. -/
def Unmarked (start : Databases) (args : ApplyArguments) (row : ProfileActivation)
    (operationId : String) (dbs : Databases) : Prop :=
  dbs.live.activations = patched args start.live.activations ∧
    ∃ live, live.activationHistory = dbs.live.activationHistory ∧
      Begun start args row operationId 2 ⟨dbs.research, live⟩

theorem Begun.commitLive (h : Begun start args row operationId 2 dbs) :
    Unmarked start args row operationId
      ⟨dbs.research, { dbs.live with activations := patched args dbs.live.activations }⟩ := by
  refine ⟨?_, dbs.live, rfl, h⟩
  change patched args dbs.live.activations = _
  rw [h.written.activations]
  rfl

theorem Unmarked.step3 (h : Unmarked start args row operationId dbs) :
    Begun start args row operationId 3
      ⟨dbs.research.updateOperation operationId (·.markDone .step3), dbs.live⟩ := by
  obtain ⟨hrows, live, hevents, h⟩ := h
  refine ⟨⟨none, h.markDone (fun _ => rfl) (by decide) rfl⟩,
    ⟨fun _ => h.written.active (by decide), h.written.history, hrows⟩, Or.inl ?_⟩
  exact hevents.symm.trans (h.events.resolve_right fun h => absurd h.1 (by decide))

theorem findActivation_of_begun (hwhite : Whitelisted args)
    (hrow : findActivation start.live.activations args.profileId = some row)
    (h : Begun start args row operationId 3 dbs) :
    findActivation dbs.live.activations args.profileId =
      some { row with payload := patchPayload args.thresholdPatches.items row.payload } := by
  have hrows : dbs.live.activations = patched args start.live.activations :=
    h.written.activations
  rw [hrows, findActivation_patched hwhite hrow]

theorem activationHistory_withEvent (hwhite : Whitelisted args)
    (hrow : findActivation start.live.activations args.profileId = some row)
    (hunused : Unused start operationId) (h : Begun start args row operationId 3 dbs) :
    (withEvent args (newOperation args operationId) dbs.live).activationHistory =
      start.live.activationHistory ++
        [newActivationEvent args (newOperation args operationId) row] := by
  unfold withEvent
  rw [findActivation_of_begun hwhite hrow h]
  change insertIfAbsent ProfileActivationEvent.activationEventId dbs.live.activationHistory
    (newActivationEvent args (newOperation args operationId) row) = _
  obtain hevents | ⟨-, hevents⟩ := h.events
  · rw [hevents, insertIfAbsent_of_unused hunused.events]
  · rw [hevents, insertIfAbsent_of_last]

theorem Begun.appendEvent (hwhite : Whitelisted args)
    (hrow : findActivation start.live.activations args.profileId = some row)
    (hunused : Unused start operationId) (h : Begun start args row operationId 3 dbs) :
    Begun start args row operationId 3
      ⟨dbs.research, withEvent args (newOperation args operationId) dbs.live⟩ := by
  refine ⟨h.operation, ⟨h.written.active, h.written.history, ?_⟩, Or.inr ⟨le_rfl, ?_⟩⟩
  · exact (activations_withEvent _ _).trans h.written.activations
  · exact activationHistory_withEvent hwhite hrow hunused h

/-! ### A whole call -/

/-- What is committed while a caller repeats the call: the start, or a begun operation. -/
def Resumable (start : Databases) (args : ApplyArguments) (row : ProfileActivation)
    (dbs : Databases) : Prop :=
  dbs = start ∨ ∃ id k, k ≤ 3 ∧ Unused start id ∧ Begun start args row id k dbs

def FailedAt (attempt : Attempt) (start : Databases) (args : ApplyArguments)
    (row : ProfileActivation) (dbs : Databases) : Prop :=
  attempt.failure ≠ none ∧ Resumable start args row dbs

theorem updateOperation_of_unused {update : SagaOperation → SagaOperation}
    (hunused : Unused dbs operationId) :
    dbs.research.updateOperation operationId update = dbs.research := by
  unfold ResearchDb.updateOperation
  have hsame : dbs.research.operations.map
      (fun op => if op.operationId = operationId then update op else op) =
        dbs.research.operations := by
    conv_rhs => rw [← List.map_id dbs.research.operations]
    exact List.map_congr_left fun op hop => if_neg (hunused.operations op hop)
  rw [hsame]

theorem Resumable.markError (h : Resumable start args row dbs) (hunused : Unused start operationId)
    (error : SagaException) :
    Resumable start args row
      ⟨dbs.research.updateOperation operationId fun row => { row with lastError := some error },
        dbs.live⟩ := by
  obtain rfl | ⟨id, k, hk, hid, hbegun⟩ := h
  · rw [updateOperation_of_unused hunused]
    exact Or.inl rfl
  · exact Or.inr ⟨id, k, hk, hid, hbegun.markError hk operationId error⟩

theorem Attempt.failure_ne_none (h : attempt.fault place ≠ none) : attempt.failure ≠ none := by
  intro hnone
  unfold Attempt.fault at h
  rw [hnone] at h
  exact h rfl

theorem tolerates_begun (hk : k ≤ 3) (hunused : Unused start operationId) (place : SagaPlace) :
    Tolerates attempt (Begun start args row operationId k) (FailedAt attempt start args row)
      place :=
  fun hfault _ h => ⟨attempt.failure_ne_none hfault, Or.inr ⟨_, k, hk, hunused, h⟩⟩

theorem tolerates_of_none (h : attempt.fault place = none) : Tolerates attempt P R place :=
  fun hfault => absurd h hfault

/-- The rest of an operation whose first `k` steps are done. -/
theorem triple_sagaSteps_begun (hwhite : Whitelisted args)
    (hrow : findActivation start.live.activations args.profileId = some row)
    (hbaseline : driftErrors row.payload args.thresholdPatches.items = [])
    (hunused : Unused start operationId) (hk : k ≤ 3)
    (hmark : 3 ≤ k ∨ (attempt.fault (.markStep .step3) = none ∧
      attempt.fault (.commitStep .step3) = none))
    (hreturned : attempt.fault .returned = none) :
    Triple (Pending (Begun start args row operationId k) id id)
      (sagaSteps attempt args (operationAt args operationId k lastError))
      (fun _ => Pending (Ended start args row operationId) id id)
      (Left (FailedAt attempt start args row)) := by
  have hfault : ∀ k ≤ 3, ∀ place, Tolerates attempt (Begun start args row operationId k)
      (FailedAt attempt start args row) place :=
    fun k hk place => tolerates_begun hk hunused place
  have hstep1 : Triple (Pending (Begun start args row operationId k) id id)
      (unlessDone (operationAt args operationId k lastError).step1Done do
        step1UpsertActive attempt args (operationAt args operationId k lastError)
        finishStep attempt (operationAt args operationId k lastError) .step1)
      (fun _ => Pending (Begun start args row operationId (max k 1)) id id)
      (Left (FailedAt attempt start args row)) := by
    refine triple_unlessDone (fun hdone => ?_) (fun hopen => ?_)
    · rw [max_eq_left (by simpa [operationAt] using hdone)]
      exact fun _ h => h
    · obtain rfl : k = 0 := by simpa [operationAt] using hopen
      exact triple_step1 (hfault 0 (by decide)) fun _ h => h.step1
  have hstep2 : Triple (Pending (Begun start args row operationId (max k 1)) id id)
      (unlessDone (operationAt args operationId k lastError).step2Done do
        step2AppendHistory attempt args (operationAt args operationId k lastError)
        finishStep attempt (operationAt args operationId k lastError) .step2)
      (fun _ => Pending (Begun start args row operationId (max k 2)) id id)
      (Left (FailedAt attempt start args row)) := by
    refine triple_unlessDone (fun hdone => ?_) (fun hopen => ?_)
    · have hk2 : 2 ≤ k := by simpa [operationAt] using hdone
      rw [max_eq_left (by omega : 1 ≤ k), max_eq_left hk2]
      exact fun _ h => h
    · have hk2 : k < 2 := by simpa [operationAt] using hopen
      rw [max_eq_right (by omega : k ≤ 1), max_eq_right (by omega : k ≤ 2)]
      exact triple_step2 (hfault 1 (by decide)) fun _ h => h.step2 hunused
  have hstep3 : Triple (Pending (Begun start args row operationId (max k 2)) id id)
      (unlessDone (operationAt args operationId k lastError).step3Done do
        step3UpdateLivePayload attempt args
        commitLive attempt .step3
        finishStep attempt (operationAt args operationId k lastError) .step3)
      (fun _ => Pending (Begun start args row operationId 3) id id)
      (Left (FailedAt attempt start args row)) := by
    refine triple_unlessDone (fun hdone => ?_) (fun hopen => ?_)
    · have hk3 : 3 ≤ k := by simpa [operationAt] using hdone
      rw [max_eq_left (by omega : 2 ≤ k), show k = 3 by omega]
      exact fun _ h => h
    · have hk3 : k < 3 := by simpa [operationAt] using hopen
      rw [max_eq_right (by omega : k ≤ 2)]
      have hnofault := hmark.resolve_left (by omega)
      refine (triple_step3UpdateLivePayload hwhite (hfault 2 (by decide)) ?_).bind fun _ => ?_
      · intro dbs h hdrift
        refine absurd ⟨row, ?_, hbaseline⟩ hdrift
        rw [h.written.activations]
        exact hrow
      · refine (triple_commitLive (fun hplace dbs h => hfault 2 (by decide) _ hplace dbs h.1)
          fun _ h => h.1.commitLive).bind fun _ => ?_
        exact triple_finishStep (tolerates_of_none hnofault.1) (tolerates_of_none hnofault.2)
          fun _ h => h.step3
  have hstep4 : Triple (Pending (Begun start args row operationId 3) id id)
      (unlessDone (operationAt args operationId k lastError).step4Done do
        step4AppendLiveHistory attempt args (operationAt args operationId k lastError)
        commitLive attempt .step4
        finishStep attempt (operationAt args operationId k lastError) .step4)
      (fun _ => Pending (Ended start args row operationId) id id)
      (Left (FailedAt attempt start args row)) := by
    refine triple_unlessDone (fun hdone => ?_) (fun _ => ?_)
    · exact absurd (show 4 ≤ k by simpa [operationAt] using hdone) (by omega)
    · refine (triple_step4AppendLiveHistory (hfault 3 le_rfl) ?_).bind fun _ => ?_
      · intro dbs h hmissing
        exact absurd ((findActivation_of_begun hwhite hrow h).symm.trans hmissing) nofun
      · let P : Databases → Prop := fun dbs => Begun start args row operationId 3 dbs ∧
          dbs.live.activationHistory = start.live.activationHistory ++
            [newActivationEvent args (newOperation args operationId) row]
        have hP : ∀ place, Tolerates attempt P (FailedAt attempt start args row) place :=
          fun place hplace dbs h => hfault 3 le_rfl place hplace dbs h.1
        refine (triple_commitLive (hfault 3 le_rfl _) fun dbs h => (?_ : P _)).bind fun _ =>
          triple_finishStep (hP _) (hP _) fun dbs h => ⟨?_, h.2⟩
        · exact ⟨h.appendEvent hwhite hrow hunused,
            activationHistory_withEvent hwhite hrow hunused h⟩
        · exact ⟨fun _ => h.1.written.active (by decide), h.1.written.history,
            h.1.written.activations⟩
  refine hstep1.bind fun _ => hstep2.bind fun _ => hstep3.bind fun _ => hstep4.bind fun _ => ?_
  exact triple_read (tolerates_of_none hreturned)

/-- The call does not fail where the live database has the effect of a step that no mark records:
before the mark of step 3 is committed, and after the last mark, where the operation counts as
finished. -/
def LosesNoMark (args : ApplyArguments) (dbs : Databases) (attempt : Attempt) : Prop :=
  ((dbs.research.unfinished args.recommendationId).any (·.step3Done) = true ∨
    (attempt.fault (.markStep .step3) = none ∧ attempt.fault (.commitStep .step3) = none)) ∧
  attempt.fault .returned = none

/-- One call from a resumable state: it ends the operation, or it failed and can be repeated. -/
theorem callSaga_resumable (hwhite : Whitelisted args)
    (hrow : findActivation start.live.activations args.profileId = some row)
    (hbaseline : driftErrors row.payload args.thresholdPatches.items = [])
    (hnone : start.research.unfinished args.recommendationId = [])
    (hunused : Unused start attempt.operationId) (hdbs : Resumable start args row dbs)
    (hmark : LosesNoMark args dbs attempt) :
    if answersOk (callSaga args dbs attempt) then
      ∃ id, (callSaga args dbs attempt).1.map SagaResult.operationId = some id ∧
        Unused start id ∧ Ended start args row id (callSaga args dbs attempt).2
    else FailedAt attempt start args row (callSaga args dbs attempt).2 := by
  obtain ⟨hmark, hreturned⟩ := hmark
  let P' : SagaOperation → Databases → Prop := fun op now =>
    ∃ id k error, op = operationAt args id k error ∧ k ≤ 3 ∧ Unused start id ∧
      (3 ≤ k ∨ (attempt.fault (.markStep .step3) = none ∧
        attempt.fault (.commitStep .step3) = none)) ∧
      Begun start args row id k now
  have hcall : Triple (Pending (fun now => now = dbs) id id) (sagaCall attempt args)
      (fun result s => if result.ok then
          Unused start result.operationId ∧ Ended start args row result.operationId s.committed
        else FailedAt attempt start args row s.committed)
      (Left (FailedAt attempt start args row)) := by
    have hfind : Triple (Pending (fun now => now = dbs) id id)
        (findOrCreateSagaOperation attempt args) (fun op => Pending (P' op) id id)
        (Left (FailedAt attempt start args row)) := by
      apply triple_findOrCreate
      · rintro place hplace _ rfl
        exact ⟨attempt.failure_ne_none hplace, hdbs⟩
      · rintro hplace now ⟨id, k, error, -, hk, hid, -, hbegun⟩
        exact ⟨attempt.failure_ne_none hplace, Or.inr ⟨id, k, hk, hid, hbegun⟩⟩
      · rintro _ op rfl hhead
        obtain rfl | ⟨id, k, hk, hid, hbegun⟩ := hdbs
        · rw [hnone] at hhead
          exact absurd hhead nofun
        · obtain ⟨error, hop⟩ := hbegun.operation
          rw [hop] at hhead hmark
          cases hhead
          refine ⟨id, k, error, rfl, hk, hid, ?_, hbegun⟩
          exact hmark.imp_left fun h => by simpa [operationAt] using h
      · rintro _ rfl hhead
        obtain rfl | ⟨id, k, hk, hid, hbegun⟩ := hdbs
        · refine ⟨attempt.operationId, 0, none, rfl, by decide, hunused, Or.inr ?_,
            begun_newOperation hnone⟩
          exact hmark.resolve_left (by simp [hnone])
        · obtain ⟨error, hop⟩ := hbegun.operation
          rw [hop] at hhead
          exact absurd hhead nofun
    refine hfind.bind fun op => ?_
    rintro _ ⟨now, ⟨id, k, error, rfl, hk, hid, hmark, hbegun⟩, rfl⟩
    have hsteps : Triple _ (sagaSteps attempt args (operationAt args id k error)) _ _ :=
      triple_sagaSteps_begun hwhite hrow hbaseline hid hk hmark hreturned
    refine (triple_applyProfileSaga hsteps ?_).consequence (fun _ hs => hs) ?_ (fun _ _ hs => hs)
      _ ⟨now, hbegun, rfl⟩
    · rintro error now ⟨hfailure, hnow⟩
      exact ⟨hfailure, hnow.markError hid error⟩
    · rintro result s ⟨hid', hs⟩
      split
      · next hok =>
        rw [if_pos hok] at hs
        rw [hid']
        exact ⟨hid, hs⟩
      · next hok =>
        rw [if_neg hok] at hs
        exact hs
  have hrun := hcall (.open dbs) ⟨dbs, rfl, rfl⟩
  unfold callSaga answersOk
  cases hsaga : sagaCall attempt args (.open dbs) with
  | ok result sessions =>
    rw [hsaga] at hrun
    change if result.ok = true then ∃ id, some result.operationId = some id ∧ _ else _
    split
    · next hok =>
      simp only [hok, if_true] at hrun
      exact ⟨result.operationId, rfl, hrun⟩
    · next hok =>
      simp only [hok] at hrun
      exact hrun
  | error e sessions =>
    rw [hsaga] at hrun
    exact hrun

/-! ### Repeated calls -/

/-- What the two databases hold after the recommendation took effect. -/
structure TakesEffect (start : Databases) (args : ApplyArguments) (row : ProfileActivation)
    (operationId : String) (dbs : Databases) : Prop where
  payload : ∃ live, findActivation dbs.live.activations args.profileId = some live ∧
    (∀ patch ∈ args.thresholdPatches.items,
      live.payload.get patch.key = some (.number patch.toValue)) ∧
    ∀ key ∉ args.thresholdPatches.items.map ThresholdPatch.key,
      live.payload.get key = row.payload.get key
  active : KeyedList.lookup ActiveParameterSet.scopeRef dbs.research.activeParameterSets
    args.profileId = some (newActiveParameterSet args (newOperation args operationId))
  history : dbs.research.applyHistory =
    start.research.applyHistory ++ [newApplyRow args (newOperation args operationId)]
  historyOnce : (dbs.research.applyHistory.filter (·.operationId = operationId)).length = 1
  event : dbs.live.activationHistory = start.live.activationHistory ++
    [newActivationEvent args (newOperation args operationId) row]
  eventOnce : (dbs.live.activationHistory.filter
    (·.activationEventId = "rdp_apply:" ++ operationId)).length = 1

theorem length_filter_append_new {α : Type} (key : α → String) (new : α) {rows : List α}
    (h : ∀ row ∈ rows, key row ≠ key new) :
    ((rows ++ [new]).filter (key · = key new)).length = 1 := by
  have hold : rows.filter (key · = key new) = [] := by
    rw [List.filter_eq_nil_iff]
    intro row hrow
    simpa using h row hrow
  rw [List.filter_append, hold, List.nil_append, List.filter_singleton]
  simp

theorem Ended.takesEffect (hwhite : Whitelisted args)
    (hrow : findActivation start.live.activations args.profileId = some row)
    (hunused : Unused start operationId) (h : Ended start args row operationId dbs) :
    TakesEffect start args row operationId dbs := by
  have hrows : dbs.live.activations = patched args start.live.activations :=
    h.written.activations
  refine
    { payload :=
        ⟨{ row with payload := patchPayload args.thresholdPatches.items row.payload }, ?_,
          fun patch hpatch => Payload.get_patchPayload args.thresholdPatches.nodup hpatch,
          fun key hkey => Payload.get_patchPayload_of_ne hkey⟩
      active := h.written.active (by decide)
      history := h.written.history
      historyOnce := ?_
      event := h.events
      eventOnce := ?_ }
  · rw [hrows, findActivation_patched hwhite hrow]
  · rw [h.written.history]
    exact length_filter_append_new ParameterApplyRow.operationId
      (newApplyRow args (newOperation args operationId)) hunused.history
  · rw [h.events]
    exact length_filter_append_new ProfileActivationEvent.activationEventId
      (newActivationEvent args (newOperation args operationId) row) hunused.events

theorem resumable_run (hwhite : Whitelisted args)
    (hrow : findActivation start.live.activations args.profileId = some row)
    (hbaseline : driftErrors row.payload args.thresholdPatches.items = [])
    (hnone : start.research.unfinished args.recommendationId = []) {attempts : List Attempt}
    (hrun : Runs.run (callAgain args) start attempts = some dbs)
    (hmeets : Runs.Meets (callAgain args)
      (fun dbs attempt => Unused start attempt.operationId ∧ LosesNoMark args dbs attempt)
      start attempts) : Resumable start args row dbs := by
  refine Runs.run_invariant_of_meets (fun now attempt next hnow hok hstep => ?_)
    (Or.inl rfl : Resumable start args row start) hmeets hrun
  have hcall := callSaga_resumable hwhite hrow hbaseline hnone hok.1 hnow hok.2
  unfold callAgain at hstep
  split at hstep
  · cases hstep
  · next hfailed =>
    cases hstep
    rw [if_neg hfailed] at hcall
    exact hcall.2

/-- **A recommendation takes effect once.**  A caller repeats the call with the same arguments while
it fails, at whatever places, and no failed call loses the mark of an effect that is already in the
live database. Then the live rows are at every point those of before or those with all patches, and
a call without a failure answers `ok` and leaves the recommendation in effect. -/
theorem applyProfileSaga_takesEffectOnce (hwhite : Whitelisted args) (hmoves : Moves args)
    (hrow : findActivation start.live.activations args.profileId = some row)
    (hbaseline : driftErrors row.payload args.thresholdPatches.items = [])
    (hnone : start.research.unfinished args.recommendationId = []) {attempts : List Attempt}
    (hrun : Runs.run (callAgain args) start attempts = some dbs)
    (hmeets : Runs.Meets (callAgain args)
      (fun dbs attempt => Unused start attempt.operationId ∧ LosesNoMark args dbs attempt)
      start attempts)
    {last : Attempt} (hunused : Unused start last.operationId) (hlast : last.failure = none) :
    Intact args start.live.activations dbs ∧
      answersOk (callSaga args dbs last) = true ∧
      ∃ id, (callSaga args dbs last).1.map SagaResult.operationId = some id ∧
        TakesEffect start args row id (callSaga args dbs last).2 := by
  refine ⟨Runs.run_invariant (fun now attempt next hnow hstep => ?_) (Or.inl rfl) hrun, ?_⟩
  · have hcall : Intact args start.live.activations (callSaga args now attempt).2 :=
      callSaga_activations hwhite hmoves hnow
    unfold callAgain at hstep
    split at hstep
    · cases hstep
    · cases hstep
      exact hcall
  have hnofault : ∀ place, last.fault place = none := fun place => by
    unfold Attempt.fault
    rw [hlast]
  have hcall := callSaga_resumable hwhite hrow hbaseline hnone hunused
    (resumable_run hwhite hrow hbaseline hnone hrun hmeets)
    ⟨Or.inr ⟨hnofault _, hnofault _⟩, hnofault _⟩
  split at hcall
  · next hok =>
    obtain ⟨id, hid, hfresh, hended⟩ := hcall
    exact ⟨hok, id, hid, hended.takesEffect hwhite hrow hfresh⟩
  · exact absurd hlast hcall.1

/-! ### A lost mark -/

def edgeRow : ProfileActivation :=
  { activationId := "act"
    payload := [("profile_id", .text "p1"), ("strategy_entry_alpha_min", .number 13)]
    productType := "spot"
    marginMode := "cash" }

def edgeDatabases : Databases :=
  { research := { operations := [], activeParameterSets := [], applyHistory := [] }
    live := { activations := [edgeRow], activationHistory := [] } }

def edgeArguments : ApplyArguments :=
  { recommendationId := "rec"
    scope := "profile"
    actor := "operator"
    profileId := "p1"
    parameterSetId := "set2"
    values := [("strategy_entry_alpha_min", .number 10)]
    fromParameterSetId := some "set1"
    thresholdPatches :=
      { items := [⟨"strategy_entry_alpha_min", some 13, 10⟩]
        nodup := by decide } }

def edgeAttempt (failure : Option (SagaPlace × Interruption)) : Attempt :=
  { operationId := "op1"
    failure := failure
    handlerFaults := fun _ => none }

theorem unused_edge (failure : Option (SagaPlace × Interruption)) :
    Unused edgeDatabases (edgeAttempt failure).operationId where
  operations _ h := absurd h List.not_mem_nil
  history _ h := absurd h List.not_mem_nil
  events _ h := absurd h List.not_mem_nil

theorem applyProfileSaga_takesEffectOnce_crashBeforeCommit :
    ∃ dbs, Runs.run (callAgain edgeArguments) edgeDatabases
        [edgeAttempt (some (.commitLive .step3, .crash))] = some dbs ∧
      answersOk (callSaga edgeArguments dbs (edgeAttempt none)) = true := by
  have hrow : findActivation edgeDatabases.live.activations edgeArguments.profileId =
      some edgeRow := rfl
  have hrun : ∃ dbs, Runs.run (callAgain edgeArguments) edgeDatabases
      [edgeAttempt (some (.commitLive .step3, .crash))] = some dbs := ⟨_, rfl⟩
  obtain ⟨dbs, hrun⟩ := hrun
  refine ⟨dbs, hrun, (applyProfileSaga_takesEffectOnce ?_ ?_ hrow (by decide +kernel) rfl hrun ?_
    (unused_edge none) rfl).2.1⟩
  · unfold Whitelisted
    decide
  · unfold Moves
    decide
  · exact ⟨⟨unused_edge _, Or.inr ⟨rfl, rfl⟩, rfl⟩, trivial⟩

theorem applyProfileSaga_not_takesEffect_lostMark :
    ∃ dbs, Runs.run (callAgain edgeArguments) edgeDatabases
        [edgeAttempt (some (.markStep .step3, .crash))] = some dbs ∧
      (callSaga edgeArguments dbs (edgeAttempt none)).1 =
        some ⟨"op1", false, some (.step3BaselineDrift "p1"
          [⟨"strategy_entry_alpha_min", some (.number 10), some 13⟩]), 2⟩ := by
  refine ⟨_, rfl, ?_⟩
  decide +kernel

end Aats.Governance
