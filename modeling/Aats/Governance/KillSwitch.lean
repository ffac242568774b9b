import Aats.Execution.OrderStateMachine

/-!
# The kill switch

The local state of `KillSwitch` (`governance_engine/kill_switch.py`) and its synchronous
transitions. Timestamps are compared and never computed with; `time.time()` is a parameter
`now`, and ids made by `new_id` are parameters too.

## Main definitions
* `adoptRecord` — the authoritative halt that a submission or a lease renewal adopts.
-/

namespace Aats.Governance

open Execution (Timestamp strOr latest)

/-! ### Data -/

/-- `KillSwitchPhase`. -/
inductive Phase
  | running
  | halting
  | halted
  | resuming
  | degraded
  deriving DecidableEq, Repr, Inhabited

/-- `ALLOWED_PROCESS_ROLES`. -/
inductive ProcessRole
  | monolith
  | gateway
  | market
  | decision
  | execution
  deriving DecidableEq, Repr, Inhabited

def ProcessRole.name : ProcessRole → String
  | monolith => "monolith"
  | gateway => "gateway"
  | market => "market"
  | decision => "decision"
  | execution => "execution"

/-- What `bootstrap` fixes: the role, and whether losing the authority blocks (it does whenever
the runtime can submit to an exchange). -/
structure Config where
  processRole : ProcessRole
  failClosedOnAuthorityLoss : Bool
  deriving DecidableEq, Repr

def Config.isExecutionAuthority (cfg : Config) : Bool :=
  decide (cfg.processRole = .execution ∨ cfg.processRole = .monolith)

def Config.isPermissionLeaseOwner (cfg : Config) : Bool :=
  decide (cfg.processRole = .gateway ∨ cfg.processRole = .monolith)

/-- `_KILL_SWITCH_PERMISSION_ISSUERS`, as names in a lease. -/
def permissionIssuers : List String := [ProcessRole.gateway.name, ProcessRole.monolith.name]

/-- `_KILL_SWITCH_PERMISSION_TTL_SECONDS`. -/
def permissionTtlSeconds : Timestamp := 15

/-- The authoritative record, as `_transition_payload` writes it. -/
structure AuthorityRecord where
  halted : Bool
  reason : Option String := none
  state : Phase
  generation : String
  setAtTs : Timestamp
  sourceRole : Option String
  resumeAuthorized : Bool
  deriving DecidableEq, Repr

structure Lease where
  generation : String
  issuedBy : String
  issuedAt : Timestamp
  deriving DecidableEq, Repr

/-- What a read of the store gives: an exception, no usable value, a value whose fields do not
parse, or a value. -/
inductive StoreAnswer (α : Type)
  | unavailable
  | missing
  | invalid
  | value (a : α)
  deriving DecidableEq, Repr

structure KillSwitch where
  halted : Bool
  reason : Option String
  phase : Phase
  generation : String
  setAtTs : Timestamp
  resumeAuthorized : Bool
  acknowledgedBy : Option String
  lastAuthorityError : Option String := none
  lastRunningGeneration : String
  lastAppliedTs : Timestamp := 0
  lastPublishedState : Option (Bool × Option String × Phase × String) := none
  permissionGeneration : Option String := none
  permissionLastSuccess : Option Timestamp := none
  deriving DecidableEq, Repr

def AuthorityRecord.authorizesRunning (r : AuthorityRecord) : Bool :=
  decide (r.halted = false ∧ r.state = .running ∧ r.resumeAuthorized = true)

namespace KillSwitch

/-! ### The writers -/

/-- A second `_begin_halt` while a halt is under way, without a generation of its own. -/
def repeatsHalt (ks : KillSwitch) (generation : Option String) : Bool :=
  decide (ks.halted = true ∧ (ks.phase = .halting ∨ ks.phase = .halted) ∧
    (generation = none ∨ generation = some ks.generation))

/-- The generation of `_begin_halt`: the one passed in (if it is not empty), the current one
during a halt, or a new one. -/
def haltGeneration (ks : KillSwitch) (generation : Option String) (newGeneration : String) :
    String :=
  match generation.filter (· ≠ "") with
  | some generation => generation
  | none =>
    if ks.halted = true ∧ (ks.phase = .halting ∨ ks.phase = .halted) then ks.generation
    else newGeneration

def beginHalt (ks : KillSwitch) (reason : String) (generation : Option String)
    (setAtTs : Timestamp) (newGeneration : String) : KillSwitch :=
  if ks.repeatsHalt generation then { ks with reason := some reason }
  else
    { ks with
      halted := true
      reason := some reason
      phase := .halting
      generation := ks.haltGeneration generation newGeneration
      setAtTs := setAtTs
      resumeAuthorized := false
      acknowledgedBy := none
      lastAuthorityError := none
      lastAppliedTs := max ks.lastAppliedTs setAtTs }

def markHaltEnforced (ks : KillSwitch) (cfg : Config) (generation : String) : KillSwitch :=
  if generation ≠ ks.generation then ks
  else { ks with phase := .halted, acknowledgedBy := some cfg.processRole.name }

def applyRunning (ks : KillSwitch) (generation : String) (setAtTs : Timestamp)
    (acknowledgedBy : Option String) : KillSwitch :=
  { ks with
    halted := false
    reason := none
    phase := .running
    generation := generation
    lastRunningGeneration := generation
    setAtTs := setAtTs
    resumeAuthorized := true
    acknowledgedBy := acknowledgedBy
    lastAuthorityError := none
    lastAppliedTs := max ks.lastAppliedTs setAtTs }

def latchDegraded (ks : KillSwitch) (reason : String) : KillSwitch :=
  { ks with
    halted := true
    reason := some reason
    phase := .degraded
    resumeAuthorized := false
    acknowledgedBy := none
    lastAuthorityError := some reason }

/-- The authoritative halt adopted by `_refresh_authoritative_state_for_submission` and by
`_renew_trading_permission_once`. -/
def adoptRecord (ks : KillSwitch) (r : AuthorityRecord) : KillSwitch :=
  { ks with
    halted := true
    reason := strOr r.reason (some "authoritative_halt")
    phase := if r.state = .halted then .halted else .halting
    generation := r.generation
    setAtTs := r.setAtTs
    resumeAuthorized := false
    acknowledgedBy := strOr r.sourceRole (some "authoritative_store")
    lastAppliedTs := max ks.lastAppliedTs r.setAtTs }

/-- The first part of `resume_async`: blocked under a new generation until the authority is
written. -/
def beginResume (ks : KillSwitch) (newGeneration : String) (now : Timestamp) : KillSwitch :=
  { ks with
    halted := true
    reason := strOr ks.reason (some "resume_pending")
    phase := .resuming
    generation := newGeneration
    setAtTs := now
    resumeAuthorized := false }

/-- `HALTED`, acknowledged by this process's own role. -/
def ownHalted (ks : KillSwitch) (cfg : Config) : Bool :=
  decide (ks.phase = .halted ∧ ks.acknowledgedBy = some cfg.processRole.name)

/-- `resume_async` finds nothing to resume. -/
def isRunning (ks : KillSwitch) : Bool :=
  decide (ks.phase = .running ∧ ks.halted = false ∧ ks.resumeAuthorized = true)

def runningPermissionEligible (ks : KillSwitch) (cfg : Config) : Bool :=
  cfg.failClosedOnAuthorityLoss && cfg.isPermissionLeaseOwner && ks.isRunning

/-! ### Answers of the store -/

/-- `_refresh_authoritative_state_for_submission`: the new state, and the record it has read or
the reason with which it raises. -/
def refreshAuthoritativeState (ks : KillSwitch) :
    StoreAnswer AuthorityRecord → KillSwitch × Except String AuthorityRecord
  | .unavailable =>
    (ks.latchDegraded "kill_switch_authority_unavailable",
      .error "kill_switch_authority_unavailable")
  | .missing =>
    (ks.latchDegraded "kill_switch_authority_missing", .error "kill_switch_authority_missing")
  | .invalid =>
    (ks.latchDegraded "kill_switch_authority_invalid", .error "kill_switch_authority_invalid")
  | .value r =>
    if r.setAtTs ≤ 0 then
      (ks.latchDegraded "kill_switch_authority_invalid", .error "kill_switch_authority_invalid")
    else if ¬ r.authorizesRunning then (ks.adoptRecord r, .ok r)
    else if r.generation ≠ ks.generation then
      (ks.applyRunning r.generation r.setAtTs (strOr r.sourceRole (some "authoritative_store")),
        .ok r)
    else (ks, .ok r)

/-- `_require_trading_permission`: the lease, or the reason of the block. -/
def requireTradingPermission (expectedGeneration : String) : StoreAnswer Lease → Except String Lease
  | .unavailable => .error "kill_switch_permission_unavailable"
  | .missing => .error "kill_switch_permission_missing"
  | .invalid => .error "kill_switch_permission_invalid"
  | .value lease =>
    if lease.issuedAt ≤ 0 then .error "kill_switch_permission_invalid"
    else if lease.generation ≠ expectedGeneration then
      .error "kill_switch_permission_generation_mismatch"
    else if lease.issuedBy ∉ permissionIssuers then .error "kill_switch_permission_invalid"
    else .ok lease

def authoritativeResumeMatches (generation : String) : StoreAnswer AuthorityRecord → Bool
  | .value r => r.authorizesRunning && decide (r.generation = generation ∧ 0 < r.setAtTs)
  | .unavailable | .missing | .invalid => false

/-- `_delete_trading_permission_locked` after the delete. -/
def forgetPermission (ks : KillSwitch) (generation : String) : KillSwitch :=
  if ks.permissionGeneration = some generation then
    { ks with permissionGeneration := none, permissionLastSuccess := none }
  else ks

def grantPermission (ks : KillSwitch) (generation : String) (now : Timestamp) : KillSwitch :=
  { ks with permissionGeneration := some generation, permissionLastSuccess := some now }

/-- The generations `_best_effort_revoke_trading_permission` deletes. -/
def revokedGenerations (ks : KillSwitch) : List String :=
  (([ks.lastRunningGeneration] ++ ks.permissionGeneration.toList).filter (· ≠ "")).eraseDups

/-! ### Start -/

/-- `__init__` with a new generation. -/
def initial (generation : String) (now : Timestamp) : KillSwitch where
  halted := false
  reason := none
  phase := .running
  generation := generation
  setAtTs := now
  resumeAuthorized := true
  acknowledgedBy := some ProcessRole.monolith.name
  lastRunningGeneration := generation

/-- The hydration of `bootstrap` from the record it reads. -/
def hydrate (ks : KillSwitch) (cfg : Config) (r : AuthorityRecord) : KillSwitch :=
  if r.halted then
    { ks with
      halted := true
      reason := strOr r.reason (some "bootstrap_from_redis")
      phase := if cfg.isExecutionAuthority then .halted else .halting
      generation := r.generation
      setAtTs := r.setAtTs
      resumeAuthorized := false
      acknowledgedBy := strOr r.sourceRole (some "redis")
      lastAppliedTs := r.setAtTs }
  else if r.authorizesRunning ∧ r.generation ≠ "" then
    { ks.applyRunning r.generation r.setAtTs (strOr r.sourceRole (some "redis")) with
      lastAppliedTs := r.setAtTs }
  else if cfg.failClosedOnAuthorityLoss then
    { ks.latchDegraded "kill_switch_resume_authority_missing" with lastAppliedTs := r.setAtTs }
  else { ks with lastAppliedTs := r.setAtTs }

def bootstrap (cfg : Config) (generation : String) (now : Timestamp) :
    StoreAnswer AuthorityRecord → KillSwitch
  | .unavailable =>
    if cfg.failClosedOnAuthorityLoss then
      (initial generation now).latchDegraded "redis_unavailable_fail_safe"
    else initial generation now
  | .missing =>
    if cfg.failClosedOnAuthorityLoss then
      (initial generation now).latchDegraded "kill_switch_authority_missing"
    else initial generation now
  | .invalid =>
    if cfg.failClosedOnAuthorityLoss then
      (initial generation now).latchDegraded "kill_switch_bootstrap_parse_failed"
    else initial generation now
  | .value r =>
    if r.setAtTs ≤ 0 then
      if cfg.failClosedOnAuthorityLoss then
        (initial generation now).latchDegraded "kill_switch_bootstrap_parse_failed"
      else initial generation now
    else (initial generation now).hydrate cfg r

end KillSwitch

end Aats.Governance
