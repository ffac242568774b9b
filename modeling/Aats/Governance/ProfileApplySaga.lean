import Aats.Lib.CrashTriple
import Aats.Lib.KeyedList
import Mathlib.Data.Rat.Defs

/-!
# The cross-database parameter apply

`apply_profile_saga` writes a recommended parameter set into two databases: the research database
gets the active set and an apply history row, the live database gets the new thresholds and an audit
event. Each of the four steps marks its progress in the research database after its effect, and a
call that fails is repeated with the same arguments.

A call is a program of statements over two sessions. It can fail at every `SagaPlace`: the process
dies, or the statement raises and the handler of `apply_profile_saga` runs.

## Main definitions
* `Attempt` — where one call fails, and the identifier it would give a new operation.
-/

namespace Aats.Governance

open CrashTriple

/-! ### Tables -/

inductive PayloadValue where
  | null
  | boolean (b : Bool)
  | number (q : ℚ)
  | text (s : String)
  /-- An array or an object, by its text. -/
  | nested (json : String)
  deriving DecidableEq

abbrev Payload := List (String × PayloadValue)

/-- `payload.get(key)`. -/
def Payload.get (payload : Payload) (key : String) : Option PayloadValue :=
  (KeyedList.lookup Prod.fst payload key).map Prod.snd

/-- `jsonb_set(payload, ARRAY[key], value)`. -/
def jsonbSet (payload : Payload) (key : String) (value : PayloadValue) : Payload :=
  KeyedList.upsert Prod.fst payload (key, value)

def payloadWhitelist : List String :=
  ["strategy_entry_min_signal_edge_bps", "strategy_entry_alpha_min", "strategy_min_net_edge_bps"]

/-- One entry of `threshold_patches`. -/
structure ThresholdPatch where
  key : String
  /-- `patch["from"]`; a key that the baseline did not have has no value here. -/
  fromValue : Option ℚ
  /-- `patch["to"]`. -/
  toValue : ℚ
  deriving DecidableEq

/-- `threshold_patches`, a dictionary. -/
structure ThresholdPatches where
  items : List ThresholdPatch
  nodup : (items.map ThresholdPatch.key).Nodup

structure DriftError where
  key : String
  current : Option PayloadValue
  expected : Option ℚ
  deriving DecidableEq

/-- What `apply_profile_saga` can meet. -/
inductive SagaException where
  | whitelistViolation (key : String)
  | step3TargetNotFound (profileId : String)
  | step3BaselineDrift (profileId : String) (driftErrors : List DriftError)
  /-- An error of a statement or of a commit. -/
  | database (message : String)
  deriving DecidableEq

inductive Interruption where
  /-- The process dies: no handler runs. -/
  | crash
  | raised (error : SagaException)
  deriving DecidableEq

inductive SagaStep where
  | step1 | step2 | step3 | step4
  deriving DecidableEq

/-- A row of `governance.apply_saga_operations`, and the `SagaOperation` read from it. -/
structure SagaOperation where
  operationId : String
  recommendationId : String
  scope : String
  actor : String
  step1Done : Bool
  step2Done : Bool
  step3Done : Bool
  step4Done : Bool
  lastError : Option SagaException
  deriving DecidableEq

/-- A row of `governance.active_parameter_sets` with scope `profile`. -/
structure ActiveParameterSet where
  scopeRef : String
  parameterSetId : String
  values : Payload
  approvalRecommendationId : String
  appliedBy : String
  deriving DecidableEq

/-- A row of `governance.parameter_apply_history`. -/
structure ParameterApplyRow where
  operationId : String
  scopeRef : String
  fromParameterSetId : Option String
  toParameterSetId : String
  recommendationId : String
  actor : String
  deriving DecidableEq

/-- A row of `strategy_profile_activation`. -/
structure ProfileActivation where
  activationId : String
  payload : Payload
  productType : String
  marginMode : String
  deriving DecidableEq

/-- A row of `strategy_profile_activation_history` that the saga writes. -/
structure ProfileActivationEvent where
  activationEventId : String
  productType : String
  marginMode : String
  operationId : String
  profileId : String
  actor : String
  thresholdPatches : List ThresholdPatch
  deriving DecidableEq

/-- The tables of the research database; the newest operation stands first. -/
structure ResearchDb where
  operations : List SagaOperation
  activeParameterSets : List ActiveParameterSet
  applyHistory : List ParameterApplyRow

structure LiveDb where
  activations : List ProfileActivation
  activationHistory : List ProfileActivationEvent

structure Databases where
  research : ResearchDb
  live : LiveDb

structure Sessions where
  research : Session ResearchDb
  live : Session LiveDb

def Sessions.open (dbs : Databases) : Sessions := ⟨.open dbs.research, .open dbs.live⟩

def Sessions.committed (sessions : Sessions) : Databases :=
  ⟨sessions.research.committed, sessions.live.committed⟩

/-! ### Calls and their failures -/

/-- The statements and commits of a call, in the order in which it meets them. -/
inductive SagaPlace where
  | findOperation
  | insertOperation
  | commitOperation
  /-- After the commit of a new operation, before it is handed to the caller. -/
  | created
  | upsertActive
  | appendHistory
  | selectActivation
  | updatePayload (key : String)
  | readActivation
  | appendLiveHistory
  | commitLive (step : SagaStep)
  | markStep (step : SagaStep)
  | commitStep (step : SagaStep)
  /-- After the last commit, before the result reaches the caller. -/
  | returned
  deriving DecidableEq

inductive HandlerPlace where
  | rollbackLive
  | rollbackResearch
  | markError
  | commitError
  deriving DecidableEq

/-- The environment of one call: `uuid.uuid4().hex` and what fails. -/
structure Attempt where
  operationId : String
  failure : Option (SagaPlace × Interruption)
  handlerFaults : HandlerPlace → Option Interruption

def Attempt.fault (attempt : Attempt) (place : SagaPlace) : Option Interruption :=
  match attempt.failure with
  | some (failing, interruption) => if failing = place then some interruption else none
  | none => none

/-- The arguments that stay the same when a caller repeats the call. -/
structure ApplyArguments where
  recommendationId : String
  scope : String
  actor : String
  profileId : String
  parameterSetId : String
  values : Payload
  fromParameterSetId : Option String
  thresholdPatches : ThresholdPatches

/-- A `SagaResult`. -/
structure SagaResult where
  operationId : String
  ok : Bool
  error : Option SagaException
  stepsCompleted : ℕ
  deriving DecidableEq

abbrev SagaM := EStateM Interruption Sessions

variable (attempt : Attempt) (args : ApplyArguments)

def onResearch (place : SagaPlace) (action : ResearchDb → ResearchDb) : SagaM Unit :=
  statement (attempt.fault place) fun sessions =>
    { sessions with research := sessions.research.write action }

def commitResearch (place : SagaPlace) : SagaM Unit :=
  statement (attempt.fault place) fun sessions =>
    { sessions with research := sessions.research.commit }

def onLive (place : SagaPlace) (action : LiveDb → LiveDb) : SagaM Unit :=
  statement (attempt.fault place) fun sessions =>
    { sessions with live := sessions.live.write action }

def commitLive (step : SagaStep) : SagaM Unit :=
  statement (attempt.fault (.commitLive step)) fun sessions =>
    { sessions with live := sessions.live.commit }

/-! ### Operations -/

/-- `recommendation_id = :rid AND step4_done_at IS NULL`. -/
def SagaOperation.isUnfinished (recommendationId : String) (op : SagaOperation) : Bool :=
  op.recommendationId = recommendationId && !op.step4Done

def ResearchDb.unfinished (db : ResearchDb) (recommendationId : String) : List SagaOperation :=
  db.operations.filter (·.isUnfinished recommendationId)

def newOperation (operationId : String) : SagaOperation :=
  { operationId
    recommendationId := args.recommendationId
    scope := args.scope
    actor := args.actor
    step1Done := false
    step2Done := false
    step3Done := false
    step4Done := false
    lastError := none }

def findOrCreateSagaOperation : SagaM SagaOperation := do
  statement (attempt.fault .findOperation) id
  let sessions ← get
  match (sessions.research.working.unfinished args.recommendationId).head? with
  | some op => pure op
  | none => do
    let op := newOperation args attempt.operationId
    onResearch attempt .insertOperation fun db => { db with operations := op :: db.operations }
    commitResearch attempt .commitOperation
    statement (attempt.fault .created) id
    pure op

/-- `SET step{step}_done_at = NOW(), last_error = NULL`. -/
def SagaOperation.markDone (op : SagaOperation) : SagaStep → SagaOperation
  | .step1 => { op with step1Done := true, lastError := none }
  | .step2 => { op with step2Done := true, lastError := none }
  | .step3 => { op with step3Done := true, lastError := none }
  | .step4 => { op with step4Done := true, lastError := none }

/-- `UPDATE governance.apply_saga_operations ... WHERE operation_id = :oid`. -/
def ResearchDb.updateOperation (db : ResearchDb) (operationId : String)
    (update : SagaOperation → SagaOperation) : ResearchDb :=
  { db with operations :=
      db.operations.map fun op => if op.operationId = operationId then update op else op }

def markStepDone (operationId : String) (step : SagaStep) : SagaM Unit :=
  onResearch attempt (.markStep step) fun db => db.updateOperation operationId (·.markDone step)

/-! ### Steps -/

/-- The row that step 1 writes. -/
def newActiveParameterSet (op : SagaOperation) : ActiveParameterSet :=
  { scopeRef := args.profileId
    parameterSetId := args.parameterSetId
    values := args.values
    approvalRecommendationId := op.recommendationId
    appliedBy := op.actor }

def step1UpsertActive (op : SagaOperation) : SagaM Unit :=
  onResearch attempt .upsertActive fun db =>
    { db with
      activeParameterSets := KeyedList.upsert ActiveParameterSet.scopeRef db.activeParameterSets
        (newActiveParameterSet args op) }

/-- The row that step 2 writes. -/
def newApplyRow (op : SagaOperation) : ParameterApplyRow :=
  { operationId := op.operationId
    scopeRef := args.profileId
    fromParameterSetId := args.fromParameterSetId
    toParameterSetId := args.parameterSetId
    recommendationId := op.recommendationId
    actor := op.actor }

/-- `INSERT ... ON CONFLICT DO NOTHING`. -/
def insertIfAbsent {α : Type} (key : α → String) (rows : List α) (row : α) : List α :=
  if (KeyedList.lookup key rows (key row)).isSome then rows else rows ++ [row]

def step2AppendHistory (op : SagaOperation) : SagaM Unit :=
  onResearch attempt .appendHistory fun db =>
    { db with applyHistory :=
        insertIfAbsent ParameterApplyRow.operationId db.applyHistory (newApplyRow args op) }

/-- `payload->>'profile_id' = :pid`. -/
def ProfileActivation.isOf (row : ProfileActivation) (profileId : String) : Bool :=
  row.payload.get "profile_id" = some (.text profileId)

def findActivation (activations : List ProfileActivation) (profileId : String) :
    Option ProfileActivation :=
  activations.find? (·.isOf profileId)

/-- `current == expected` of Python. -/
def equalsExpected : Option PayloadValue → Option ℚ → Bool
  | none, expected => expected.isNone
  | some .null, expected => expected.isNone
  | some (.number q), expected => expected = some q
  -- `True == 1.0` and `False == 0.0`
  | some (.boolean b), expected => expected = some (if b then 1 else 0)
  | some (.text _), _ => false
  | some (.nested _), _ => false

/-- The keys whose live value is not the expected one. -/
def driftErrors (payload : Payload) (patches : List ThresholdPatch) : List DriftError :=
  patches.filterMap fun patch =>
    if equalsExpected (payload.get patch.key) patch.fromValue then none
    else some ⟨patch.key, payload.get patch.key, patch.fromValue⟩

/-- `SET payload = jsonb_set(...) WHERE activation_id = :aid`. -/
def updatePayload (activations : List ProfileActivation) (activationId : String)
    (patch : ThresholdPatch) : List ProfileActivation :=
  activations.map fun row =>
    if row.activationId = activationId then
      { row with payload := jsonbSet row.payload patch.key (.number patch.toValue) }
    else row

def step3UpdateLivePayload : SagaM Unit := do
  match args.thresholdPatches.items.find? (fun patch => patch.key ∉ payloadWhitelist) with
  | some patch => throw (.raised (.whitelistViolation patch.key))
  | none => do
    statement (attempt.fault .selectActivation) id
    let sessions ← get
    match findActivation sessions.live.working.activations args.profileId with
    | none => throw (.raised (.step3TargetNotFound args.profileId))
    | some row =>
      let errors := driftErrors row.payload args.thresholdPatches.items
      if errors ≠ [] then throw (.raised (.step3BaselineDrift args.profileId errors))
      else args.thresholdPatches.items.forM fun patch =>
        onLive attempt (.updatePayload patch.key) fun db =>
          { db with activations := updatePayload db.activations row.activationId patch }

/-- The audit event that step 4 writes for a live row. -/
def newActivationEvent (op : SagaOperation) (row : ProfileActivation) : ProfileActivationEvent :=
  { activationEventId := "rdp_apply:" ++ op.operationId
    productType := row.productType
    marginMode := row.marginMode
    operationId := op.operationId
    profileId := args.profileId
    actor := op.actor
    thresholdPatches := args.thresholdPatches.items }

def step4AppendLiveHistory (op : SagaOperation) : SagaM Unit := do
  statement (attempt.fault .readActivation) id
  let sessions ← get
  match findActivation sessions.live.working.activations args.profileId with
  | none => throw (.raised (.step3TargetNotFound args.profileId))
  | some row =>
    onLive attempt .appendLiveHistory fun db =>
      { db with
        activationHistory := insertIfAbsent ProfileActivationEvent.activationEventId
          db.activationHistory (newActivationEvent args op row) }

/-! ### The orchestrator -/

def finishStep (op : SagaOperation) (step : SagaStep) : SagaM Unit := do
  markStepDone attempt op.operationId step
  commitResearch attempt (.commitStep step)

/-- `if saga_op.step{step}_done_at is None`. -/
def unlessDone (done : Bool) (body : SagaM Unit) : SagaM Unit :=
  if done then pure () else body

/-- The body of `apply_profile_saga`. -/
def sagaSteps (op : SagaOperation) : SagaM Unit := do
  unlessDone op.step1Done do
    step1UpsertActive attempt args op
    finishStep attempt op .step1
  unlessDone op.step2Done do
    step2AppendHistory attempt args op
    finishStep attempt op .step2
  unlessDone op.step3Done do
    step3UpdateLivePayload attempt args
    commitLive attempt .step3
    finishStep attempt op .step3
  unlessDone op.step4Done do
    step4AppendLiveHistory attempt args op
    commitLive attempt .step4
    finishStep attempt op .step4
  statement (attempt.fault .returned) id

/-- `try: ...` with `except Exception: pass`; a crash goes through. -/
def ignoring (body : SagaM Unit) : SagaM Unit :=
  guarded body fun
    | .crash => throw .crash
    | .raised _ => pure ()

/-- The handler of `apply_profile_saga` up to its result. -/
def recordSagaError (op : SagaOperation) (error : SagaException) : SagaM Unit := do
  ignoring (statement (attempt.handlerFaults .rollbackLive) fun sessions =>
    { sessions with live := sessions.live.rollback })
  ignoring do
    statement (attempt.handlerFaults .rollbackResearch) fun sessions =>
      { sessions with research := sessions.research.rollback }
    -- `_mark_saga_error`
    statement (attempt.handlerFaults .markError) fun sessions =>
      { sessions with research := sessions.research.write fun db =>
          db.updateOperation op.operationId fun row => { row with lastError := some error } }
    statement (attempt.handlerFaults .commitError) fun sessions =>
      { sessions with research := sessions.research.commit }

/-- The steps that the operation had done when it was read. -/
def SagaOperation.stepsCompleted (op : SagaOperation) : ℕ :=
  ([op.step1Done, op.step2Done, op.step3Done, op.step4Done].filter id).length

def applyProfileSaga (op : SagaOperation) : SagaM SagaResult :=
  guarded
    (do
      sagaSteps attempt args op
      pure ⟨op.operationId, true, none, 4⟩)
    fun
      | .crash => throw .crash
      | .raised error => do
        recordSagaError attempt op error
        pure ⟨op.operationId, false, some error, op.stepsCompleted⟩

/-- One call of a caller: both functions, on new sessions. -/
def sagaCall : SagaM SagaResult := do
  let op ← findOrCreateSagaOperation attempt args
  applyProfileSaga attempt args op

/-- What a call answers, if it answers, and what it leaves committed. -/
def callSaga (args : ApplyArguments) (dbs : Databases) (attempt : Attempt) :
    Option SagaResult × Databases :=
  match sagaCall attempt args (.open dbs) with
  | .ok result sessions => (some result, sessions.committed)
  | .error _ sessions => (none, sessions.committed)

/-- A call answered `ok`. -/
def answersOk (answer : Option SagaResult × Databases) : Bool := answer.1.any (·.ok)

/-- A caller calls again after a call that did not answer `ok`. -/
def callAgain (args : ApplyArguments) (dbs : Databases) (attempt : Attempt) : Option Databases :=
  if answersOk (callSaga args dbs attempt) then none else some (callSaga args dbs attempt).2

end Aats.Governance
