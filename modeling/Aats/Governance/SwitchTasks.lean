import Aats.Lib.Tasks
import Aats.Governance.KillSwitch

/-!
# The tasks of a kill switch

The coroutines of one bootstrapped `KillSwitch`, cut at their await points: `halt` and
`halt_async`, remote halt and resume events, guarded submissions, lease renewals and
`resume_async`. What the store and the bus answer is an input of the step that receives it, so
a read may give a record that was written long before, and every operation may fail. Locks are
taken by whichever waiting task moves first.

Some fields only record what has happened: how often `_begin_halt` has run, with which
generations, whether a resume has followed, and whether `HALTED` has been acknowledged.

## Main definitions
* `Switch`, `Task`, `Input` — the shared state, the await points and what ends them.
* `advance` — what a task does between two await points.
-/

namespace Aats.Governance

open Execution (Timestamp strOr latest)
open KillSwitch

/-! ### Shared state and tasks -/

/-- The switch, its two locks and the record of what has happened. -/
structure Switch where
  ks : KillSwitch
  /-- The task that holds `_submission_fence`. -/
  fence : Option ℕ := none
  /-- The task that holds `_trading_permission_io_lock`. -/
  ioLock : Option ℕ := none
  /-- How often `_begin_halt` has run. -/
  halts : ℕ := 0
  haltGenerations : List String := []
  /-- A resume has applied `RUNNING` since the last `_begin_halt`. -/
  resumedSince : Bool := false
  /-- One has that was also started after it. -/
  cleared : Bool := false
  /-- `HALTED` was acknowledged, and no resume has applied a new generation since. -/
  acked : Bool := false
  deriving DecidableEq

/-- Where a halt comes from; a remote one carries the reason of its event. -/
inductive HaltKind
  | sync
  | async
  | remote (reason : Option String)
  deriving DecidableEq

structure HaltJob where
  kind : HaltKind
  reason : String
  generation : String
  finalTs : Timestamp := 0
  deriving DecidableEq

/-- The await points of `_publish`. -/
inductive PublishPc
  | start
  /-- `_best_effort_revoke_trading_permission`: waiting for the lock, or deleting. -/
  | revoking (locked : Bool) (remaining : List String)
  /-- `_best_effort_redis_set`. -/
  | writing
  /-- `_best_effort_nats_broadcast`. -/
  | broadcasting
  deriving DecidableEq

inductive AfterRenew
  | loop
  | resumeEarly
  | resumeFinish (generation : String)
  deriving DecidableEq

/-- The await points of `_renew_trading_permission_once`. -/
inductive RenewPc
  | revoking (locked : Bool) (remaining : List String)
  | waiting (generation : String)
  | reading (generation : String)
  | deleting (generation : String) (raises : Bool)
  | deletingPrevious (generation previous : String)
  | writing (generation : String)
  deriving DecidableEq

/-- A coroutine at one of its await points; `seen` is the number of halts when it started. -/
inductive Task
  | idle
  | publishing (job : HaltJob) (final : Bool) (pc : PublishPc)
  | draining (job : HaltJob)
  | checkingResume (event : AuthorityRecord) (seen : ℕ)
  | guardWaiting (expected : String)
  | guardReading (expected : String) (seen : ℕ)
  | guardLeasing (expected : String) (record : AuthorityRecord)
  /-- The body runs; `current` was the generation at its admission. -/
  | guardInside (expected : String) (record : AuthorityRecord) (lease : Option Lease)
      (current : String)
  | renewing (after : AfterRenew) (pc : RenewPc)
  | resumeWriting (generation : String) (setAtTs : Timestamp) (seen : ℕ)
  | resumeBroadcasting (generation : String)
  deriving DecidableEq

/-- What starts a coroutine or ends its await. -/
inductive Input
  | halt (reason newGeneration : String) (now : Timestamp)
  | haltAsync (reason : String) (generation : Option String) (setAtTs : Option Timestamp)
      (newGeneration : String) (now : Timestamp)
  | remoteEvent (event : AuthorityRecord)
  | guard (expected : String)
  | renew
  | resumeAsync (newGeneration : String) (now : Timestamp)
  /-- A lock is free, or a scheduled coroutine starts. -/
  | proceed (now : Timestamp)
  /-- A write, a delete or a broadcast has ended. -/
  | done (ok : Bool) (now : Timestamp)
  | authority (answer : StoreAnswer AuthorityRecord) (now : Timestamp)
  | permission (answer : StoreAnswer Lease)
  | bodyEnds

inductive Event
  | quiet
  | began
  | resumed (seen : ℕ) (generation : String)
  | returned
  deriving DecidableEq

def Switch.note (cfg : Config) (sw : Switch) : Event → Switch
  | .quiet => { sw with acked := sw.acked || sw.ks.ownHalted cfg }
  | .began =>
    { sw with
      halts := sw.halts + 1
      haltGenerations := sw.haltGenerations ++ [sw.ks.generation]
      resumedSince := false
      cleared := false
      acked := sw.acked || sw.ks.ownHalted cfg }
  | .resumed seen generation =>
    { sw with
      resumedSince := true
      cleared := sw.cleared || decide (seen = sw.halts)
      acked := sw.acked && decide (generation ∈ sw.haltGenerations) }
  | .returned => { sw with acked := true }

abbrev Move := Switch × Task × Event

def Switch.set (sw : Switch) (ks : KillSwitch) : Switch := { sw with ks := ks }

/-! ### Publishing and draining a halt -/

/-- The end of a halt. A remote one records what it has applied. -/
def finishHalt (sw : Switch) (job : HaltJob) : Move :=
  match job.kind with
  | .sync => (sw, .idle, .quiet)
  | .async => (sw, .idle, .returned)
  | .remote reason =>
    (sw.set { sw.ks with
      lastAppliedTs := max sw.ks.lastAppliedTs job.finalTs
      lastPublishedState := some (true, reason, .halted, job.generation) }, .idle, .quiet)

/-- After one `_publish`: the execution authority drains the fence, then publishes `HALTED`. -/
def afterPublish (cfg : Config) (sw : Switch) (job : HaltJob) (final : Bool) : Move :=
  if final then finishHalt sw job
  else if cfg.isExecutionAuthority then (sw, .draining job, .quiet)
  else finishHalt sw job

/-- The state that `_publish` announces. -/
def HaltJob.announced (job : HaltJob) (final : Bool) : Bool × Option String × Phase × String :=
  (true, some job.reason, if final then .halted else .halting, job.generation)

/-- The deduplication of `_publish`. -/
def publishUnlessRepeated (cfg : Config) (sw : Switch) (job : HaltJob) (final : Bool) : Move :=
  if sw.ks.lastPublishedState = some (job.announced final) then afterPublish cfg sw job final
  else
    (sw.set { sw.ks with lastPublishedState := some (job.announced final) },
      .publishing job final .writing, .quiet)

/-- `_publish`. -/
def advancePublish (cfg : Config) (sw : Switch) (me : ℕ) (job : HaltJob) (final : Bool) :
    PublishPc → Input → Option Move
  | .start, .proceed _ =>
    if sw.ks.revokedGenerations = [] then some (publishUnlessRepeated cfg sw job final)
    else some (sw, .publishing job final (.revoking false sw.ks.revokedGenerations), .quiet)
  | .revoking false remaining, .proceed _ =>
    if sw.ioLock = none then
      some ({ sw with ioLock := some me }, .publishing job final (.revoking true remaining), .quiet)
    else none
  | .revoking true (generation :: rest), .done ok _ =>
    if ok then
      if rest = [] then
        some (publishUnlessRepeated cfg
          { sw.set (sw.ks.forgetPermission generation) with ioLock := none } job final)
      else
        some (sw.set (sw.ks.forgetPermission generation),
          .publishing job final (.revoking true rest), .quiet)
    else some (publishUnlessRepeated cfg { sw with ioLock := none } job final)
  | .writing, .done _ _ => some (sw, .publishing job final .broadcasting, .quiet)
  | .broadcasting, .done _ _ => some (afterPublish cfg sw job final)
  | _, _ => none

/-- `_drain_submission_fence`: take the free fence, mark, release. -/
def advanceDrain (cfg : Config) (sw : Switch) (job : HaltJob) : Input → Option Move
  | .proceed now =>
    if sw.fence = none then
      some (sw.set { sw.ks.markHaltEnforced cfg job.generation with setAtTs := now },
        .publishing { job with finalTs := now } true .start, .quiet)
    else none
  | _ => none

/-! ### Renewing the permission lease -/

/-- When a failing renewal loop gives up: the lease of the current generation has expired. -/
def KillSwitch.renewDeadline (ks : KillSwitch) (now : Timestamp) : Timestamp :=
  if ks.permissionGeneration = some ks.generation then
    (ks.permissionLastSuccess.map (· + permissionTtlSeconds)).getD now
  else now

/-- The end of a renewal, for the one who awaits it. -/
def finishRenew (sw : Switch) (after : AfterRenew) (raised : Bool) (now : Timestamp) : Switch × Task :=
  match after with
  | .loop =>
    if raised ∧ sw.ks.renewDeadline now ≤ now then
      (sw.set (sw.ks.latchDegraded "kill_switch_permission_lease_renewal_expired"), .idle)
    else (sw, .idle)
  | .resumeEarly =>
    if raised then (sw.set (sw.ks.latchDegraded "kill_switch_permission_lease_write_failed"), .idle)
    else (sw, .idle)
  | .resumeFinish generation =>
    if raised then (sw.set (sw.ks.latchDegraded "kill_switch_permission_lease_write_failed"), .idle)
    else (sw, .resumeBroadcasting generation)

/-- The end of a renewal that held the lock. -/
def releaseRenew (sw : Switch) (after : AfterRenew) (raised : Bool) (now : Timestamp) :
    Option Move :=
  some ((finishRenew { sw with ioLock := none } after raised now).1,
    (finishRenew { sw with ioLock := none } after raised now).2, .quiet)

/-- `_renew_trading_permission_once` up to its first await. -/
def beginRenew (cfg : Config) (sw : Switch) (after : AfterRenew) : Task :=
  if sw.ks.runningPermissionEligible cfg then .renewing after (.waiting sw.ks.generation)
  else .renewing after (.revoking false sw.ks.revokedGenerations)

/-- `_renew_trading_permission_once`. -/
def advanceRenew (cfg : Config) (sw : Switch) (me : ℕ) (after : AfterRenew) :
    RenewPc → Input → Option Move
  | .revoking false [], .proceed now =>
    some ((finishRenew sw after false now).1, (finishRenew sw after false now).2, .quiet)
  | .revoking false (generation :: rest), .proceed _ =>
    if sw.ioLock = none then
      some ({ sw with ioLock := some me }, .renewing after (.revoking true (generation :: rest)),
        .quiet)
    else none
  | .revoking true (generation :: rest), .done ok now =>
    if ok then
      if rest = [] then releaseRenew (sw.set (sw.ks.forgetPermission generation)) after false now
      else
        some (sw.set (sw.ks.forgetPermission generation), .renewing after (.revoking true rest),
          .quiet)
    else releaseRenew sw after false now
  | .waiting generation, .proceed _ =>
    if sw.ioLock = none then
      if ¬ sw.ks.runningPermissionEligible cfg ∨ generation ≠ sw.ks.generation then
        some ({ sw with ioLock := some me }, .renewing after (.deleting generation false), .quiet)
      else some ({ sw with ioLock := some me }, .renewing after (.reading generation), .quiet)
    else none
  | .deleting generation raises, .done ok now =>
    if ok then releaseRenew (sw.set (sw.ks.forgetPermission generation)) after raises now
    else releaseRenew sw after true now
  | .reading generation, .authority (.value r) now =>
    if r.setAtTs ≤ 0 then releaseRenew sw after true now
    else if ¬ r.authorizesRunning then
      some (sw.set (sw.ks.adoptRecord r), .renewing after (.deleting generation false), .quiet)
    else if r.generation ≠ generation then
      some (sw, .renewing after (.deleting generation true), .quiet)
    else if ¬ sw.ks.runningPermissionEligible cfg ∨ generation ≠ sw.ks.generation then
      some (sw, .renewing after (.deleting generation false), .quiet)
    else
      match sw.ks.permissionGeneration with
      | some previous =>
        if previous ≠ generation then
          some (sw, .renewing after (.deletingPrevious generation previous), .quiet)
        else some (sw, .renewing after (.writing generation), .quiet)
      | none => some (sw, .renewing after (.writing generation), .quiet)
  | .reading _, .authority _ now => releaseRenew sw after true now
  | .deletingPrevious generation previous, .done ok now =>
    if ok then
      some (sw.set (sw.ks.forgetPermission previous), .renewing after (.writing generation), .quiet)
    else releaseRenew sw after true now
  | .writing generation, .done ok now =>
    if ok then
      releaseRenew (sw.set (sw.ks.grantPermission generation now)) after false now
    else releaseRenew sw after true now
  | _, _ => none

/-! ### Guarded submissions -/

/-- `risk_increasing_submission_guard` takes the fence and checks the switch. -/
def advanceGuardWaiting (sw : Switch) (me : ℕ) (expected : String) : Input → Option Move
  | .proceed _ =>
    if sw.fence = none then
      if sw.ks.halted ∨ expected ≠ sw.ks.generation then some (sw, .idle, .quiet)
      else some ({ sw with fence := some me }, .guardReading expected sw.halts, .quiet)
    else none
  | _ => none

def blocked (sw : Switch) (ks : KillSwitch) : Option Move :=
  some ({ sw with ks := ks, fence := none }, .idle, .quiet)

def advanceGuardReading (cfg : Config) (sw : Switch) (expected : String) : Input → Option Move
  | .authority answer _ =>
    match sw.ks.refreshAuthoritativeState answer with
    | (ks, .error _) => blocked sw ks
    | (ks, .ok record) =>
      if ks.halted ∨ expected ≠ ks.generation then blocked sw ks
      else if cfg.failClosedOnAuthorityLoss then
        some (sw.set ks, .guardLeasing expected record, .quiet)
      else some (sw.set ks, .guardInside expected record none ks.generation, .quiet)
  | _ => none

/-- The answer of the lease read. Nothing is checked again before the body. -/
def advanceGuardLeasing (sw : Switch) (expected : String) (record : AuthorityRecord) :
    Input → Option Move
  | .permission answer =>
    match requireTradingPermission expected answer with
    | .error reason => blocked sw (sw.ks.latchDegraded reason)
    | .ok lease => some (sw, .guardInside expected record (some lease) sw.ks.generation, .quiet)
  | _ => none

def advanceGuardInside (sw : Switch) : Input → Option Move
  | .bodyEnds => blocked sw sw.ks
  | _ => none

/-! ### Resuming -/

def KillSwitch.noteRemote (ks : KillSwitch) (event : AuthorityRecord) : KillSwitch :=
  { ks with
    lastAppliedTs := max ks.lastAppliedTs event.setAtTs
    lastPublishedState :=
      some (event.halted, if event.halted then event.reason else none, event.state, event.generation) }

/-- The answer of `_authoritative_resume_matches` for a remote resume. -/
def advanceCheckingResume (sw : Switch) (event : AuthorityRecord) (seen : ℕ) : Input → Option Move
  | .authority answer _ =>
    if authoritativeResumeMatches event.generation answer then
      some (sw.set ((sw.ks.applyRunning event.generation event.setAtTs
        (strOr event.sourceRole (some "remote"))).noteRemote event), .idle,
        .resumed seen event.generation)
    else
      some (sw.set (sw.ks.latchDegraded "kill_switch_remote_resume_authority_mismatch"), .idle,
        .quiet)
  | _ => none

/-- The authoritative write of `resume_async`. -/
def advanceResumeWriting (cfg : Config) (sw : Switch) (generation : String) (setAtTs : Timestamp)
    (seen : ℕ) : Input → Option Move
  | .done true _ =>
    let resumed := sw.set (sw.ks.applyRunning generation setAtTs (some cfg.processRole.name))
    if cfg.failClosedOnAuthorityLoss && cfg.isPermissionLeaseOwner then
      some (resumed, beginRenew cfg resumed (.resumeFinish generation), .resumed seen generation)
    else some (resumed, .resumeBroadcasting generation, .resumed seen generation)
  | .done false _ =>
    some (sw.set (sw.ks.latchDegraded "kill_switch_resume_authority_write_failed"), .idle, .quiet)
  | _ => none

/-- The broadcast of `resume_async`. -/
def advanceResumeBroadcasting (sw : Switch) (generation : String) : Input → Option Move
  | .done _ _ =>
    some (sw.set { sw.ks with lastPublishedState := some (false, none, .running, generation) },
      .idle, .quiet)
  | _ => none

/-! ### Starting a coroutine -/

/-- A remote event that is neither unreadable, nor one's own, nor old. -/
def KillSwitch.acceptsRemote (ks : KillSwitch) (cfg : Config) (event : AuthorityRecord) : Bool :=
  decide (0 < event.setAtTs ∧ event.sourceRole ≠ some cfg.processRole.name ∧
    ks.lastAppliedTs < event.setAtTs)

def remoteReason (event : AuthorityRecord) : String :=
  (strOr event.reason (some "remote_halt")).getD "remote_halt"

/-- `_handle_remote_event` of a halt. -/
def launchRemoteHalt (cfg : Config) (sw : Switch) (event : AuthorityRecord) : Move :=
  let ks := sw.ks.beginHalt (remoteReason event) (some event.generation) event.setAtTs
    event.generation
  if event.state = .halted then
    (sw.set ({ ks with
      phase := .halted
      acknowledgedBy := strOr event.sourceRole (some "remote") }.noteRemote event), .idle, .began)
  else if cfg.isExecutionAuthority then
    (sw.set ks, .draining { kind := .remote event.reason, reason := remoteReason event,
                            generation := event.generation }, .began)
  else (sw.set (ks.noteRemote event), .idle, .began)

/-- `_handle_remote_event`. -/
def launchRemote (cfg : Config) (sw : Switch) (event : AuthorityRecord) : Move :=
  if ¬ sw.ks.acceptsRemote cfg event then (sw, .idle, .quiet)
  else if event.halted then launchRemoteHalt cfg sw event
  else if event.state ≠ .running ∨ event.resumeAuthorized = false then
    (sw.set (sw.ks.latchDegraded "kill_switch_remote_resume_unauthorized"), .idle, .quiet)
  else (sw, .checkingResume event sw.halts, .quiet)

/-- `halt_async` up to its first await. -/
def launchHalt (sw : Switch) (kind : HaltKind) (reason : String) (generation : Option String)
    (setAtTs : Timestamp) (newGeneration : String) : Move :=
  let ks := sw.ks.beginHalt reason generation setAtTs newGeneration
  (sw.set ks, .publishing { kind := kind, reason := reason, generation := ks.generation } false
    .start, .began)

/-- `halt`, which schedules the rest. -/
def launchSyncHalt (sw : Switch) (reason : String) (now : Timestamp) (newGeneration : String) :
    Move :=
  let begun := launchHalt sw .sync reason none now newGeneration
  (begun.1.set { begun.1.ks with
    lastAppliedTs := max begun.1.ks.lastAppliedTs begun.1.ks.setAtTs }, begun.2)

/-- `resume_async` up to its first await. -/
def launchResume (cfg : Config) (sw : Switch) (newGeneration : String) (now : Timestamp) : Move :=
  if sw.ks.isRunning then
    if cfg.failClosedOnAuthorityLoss && cfg.isPermissionLeaseOwner then
      (sw, beginRenew cfg sw .resumeEarly, .quiet)
    else (sw, .idle, .quiet)
  else
    (sw.set (sw.ks.beginResume newGeneration now), .resumeWriting newGeneration now sw.halts,
      .quiet)

/-- What an idle task can start. Clocks are positive and new ids are new. -/
def launch (cfg : Config) (sw : Switch) : Input → Option Move
  | .halt reason newGeneration now =>
    if 0 < now then some (launchSyncHalt sw reason now newGeneration) else none
  | .haltAsync reason generation setAtTs newGeneration now =>
    if 0 < now ∧ 0 < setAtTs.getD now then
      some (launchHalt sw .async reason generation (setAtTs.getD now) newGeneration)
    else none
  | .remoteEvent event => some (launchRemote cfg sw event)
  | .guard expected => some (sw, .guardWaiting expected, .quiet)
  | .renew => if cfg.isPermissionLeaseOwner then some (sw, beginRenew cfg sw .loop, .quiet) else none
  | .resumeAsync newGeneration now =>
    if 0 < now ∧ newGeneration ∉ sw.haltGenerations then
      some (launchResume cfg sw newGeneration now)
    else none
  | _ => none

/-! ### The machine -/

/-- What a task does between two await points. -/
def move (cfg : Config) (sw : Switch) (me : ℕ) : Task → Input → Option Move
  | .idle, input => launch cfg sw input
  | .publishing job final pc, input => advancePublish cfg sw me job final pc input
  | .draining job, input => advanceDrain cfg sw job input
  | .checkingResume event seen, input => advanceCheckingResume sw event seen input
  | .guardWaiting expected, input => advanceGuardWaiting sw me expected input
  | .guardReading expected _, input => advanceGuardReading cfg sw expected input
  | .guardLeasing expected record, input => advanceGuardLeasing sw expected record input
  | .guardInside _ _ _ _, input => advanceGuardInside sw input
  | .renewing after pc, input => advanceRenew cfg sw me after pc input
  | .resumeWriting generation setAtTs seen, input =>
    advanceResumeWriting cfg sw generation setAtTs seen input
  | .resumeBroadcasting generation, input => advanceResumeBroadcasting sw generation input

def advance (cfg : Config) (sw : Switch) (me : ℕ) (task : Task) (input : Input) :
    Option (Switch × Task) :=
  (move cfg sw me task input).map fun m => (m.1.note cfg m.2.2, m.2.1)

/-! ### What a move can do -/

namespace Task

/-- The submission has passed its first check and holds the fence. -/
def pastEntry : Task → Bool
  | guardReading _ _ | guardLeasing _ _ | guardInside _ _ _ _ => true
  | idle | publishing _ _ _ | draining _ | checkingResume _ _ | guardWaiting _ | renewing _ _
  | resumeWriting _ _ _ | resumeBroadcasting _ => false

def halts : Task → Bool
  | publishing _ _ _ | draining _ => true
  | idle | checkingResume _ _ | guardWaiting _ | guardReading _ _ | guardLeasing _ _
  | guardInside _ _ _ _ | renewing _ _ | resumeWriting _ _ _ | resumeBroadcasting _ => false

def drained : Task → Bool
  | publishing _ final _ => final
  | idle | draining _ | checkingResume _ _ | guardWaiting _ | guardReading _ _ | guardLeasing _ _
  | guardInside _ _ _ _ | renewing _ _ | resumeWriting _ _ _ | resumeBroadcasting _ => false

/-- A submission that awaits its authority read; the number of halts at its first check. -/
def readsSince : Task → Option ℕ
  | guardReading _ seen => some seen
  | idle | publishing _ _ _ | draining _ | checkingResume _ _ | guardWaiting _ | guardLeasing _ _
  | guardInside _ _ _ _ | renewing _ _ | resumeWriting _ _ _ | resumeBroadcasting _ => none

def leasing : Task → Option String
  | guardLeasing expected _ => some expected
  | idle | publishing _ _ _ | draining _ | checkingResume _ _ | guardWaiting _ | guardReading _ _
  | guardInside _ _ _ _ | renewing _ _ | resumeWriting _ _ _ | resumeBroadcasting _ => none

def inside : Task → Bool
  | guardInside _ _ _ _ => true
  | idle | publishing _ _ _ | draining _ | checkingResume _ _ | guardWaiting _ | guardReading _ _
  | guardLeasing _ _ | renewing _ _ | resumeWriting _ _ _ | resumeBroadcasting _ => false

theorem readsSince_of_outside {task : Task} (h : task.pastEntry = false) :
    task.readsSince = none := by
  cases task <;> first | rfl | cases h

theorem halts_of_drained {task : Task} (h : task.drained = true) : task.halts = true := by
  cases task <;> first | rfl | cases h

end Task

/-- A submission is about to apply the `RUNNING` record it has read; the number of halts when
it passed its first check. -/
def appliesRead (sw : Switch) : Task → Input → Option ℕ
  | .guardReading _ seen, .authority (.value r) _ =>
    if 0 < r.setAtTs ∧ r.authorizesRunning ∧ r.generation ≠ sw.ks.generation then some seen
    else none
  | _, _ => none

/-- A resume is about to apply `RUNNING`; the number of halts when it started, and the
generation. -/
def appliesResume : Task → Input → Option (ℕ × String)
  | .resumeWriting generation _ seen, .done true _ => some (seen, generation)
  | .checkingResume event seen, .authority answer _ =>
    if authoritativeResumeMatches event.generation answer then some (seen, event.generation)
    else none
  | _, _ => none

/-- A renewal is about to adopt a `HALTED` record of this process's own role. -/
def adoptsOwnHalt (cfg : Config) : Task → Input → Bool
  | .renewing _ (.reading _), .authority (.value r) _ =>
    decide (0 < r.setAtTs ∧ r.authorizesRunning = false ∧ r.state = .halted ∧
      r.sourceRole = some cfg.processRole.name)
  | _, _ => false

structure Switch.SameRecord (sw sw' : Switch) : Prop where
  halts : sw'.halts = sw.halts
  haltGenerations : sw'.haltGenerations = sw.haltGenerations
  resumedSince : sw'.resumedSince = sw.resumedSince
  cleared : sw'.cleared = sw.cleared
  acked : sw'.acked = sw.acked

/-- Everything that a task can do to the switch, the fence and itself. -/
inductive Effect (cfg : Config) (sw : Switch) (me : ℕ) (input : Input) :
    Task → Switch → Task → Event → Prop
  /-- A step of a halt, a renewal or a resume that does not unblock anything. -/
  | internal {task task' : Task} {sw' : Switch} (record : sw.SameRecord sw')
      (fence : sw'.fence = sw.fence) (halted : sw.ks.halted = true → sw'.ks.halted = true)
      (own : sw'.ks.ownHalted cfg = true →
        sw.ks.ownHalted cfg = true ∨
          adoptsOwnHalt cfg task input = true ∧ sw'.ks.halted = true)
      (outside : task.pastEntry = false) (outside' : task'.pastEntry = false)
      (halts : task'.halts = true → task.halts = true)
      (drained : task'.drained = true → task.drained = true) :
      Effect cfg sw me input task sw' task' .quiet
  /-- `_begin_halt`. -/
  | began {task' : Task} {sw' : Switch} (record : sw.SameRecord sw') (fence : sw'.fence = sw.fence)
      (halted : sw'.ks.halted = true)
      (own : sw'.ks.ownHalted cfg = true → sw.ks.ownHalted cfg = true)
      (outside' : task'.pastEntry = false) (drained : task'.drained = false) :
      Effect cfg sw me input .idle sw' task' .began
  /-- The end of `halt_async`. -/
  | returned {task : Task} {sw' : Switch} (record : sw.SameRecord sw') (fence : sw'.fence = sw.fence)
      (halted : sw'.ks.halted = sw.ks.halted) (halts : task.halts = true)
      (drained : cfg.isExecutionAuthority = true → task.drained = true) :
      Effect cfg sw me input task sw' .idle .returned
  | drained {job : HaltJob} {task' : Task} {sw' : Switch} (record : sw.SameRecord sw')
      (free : sw.fence = none) (fence : sw'.fence = none) (halted : sw'.ks.halted = sw.ks.halted)
      (outside' : task'.pastEntry = false) :
      Effect cfg sw me input (.draining job) sw' task' .quiet
  /-- `RUNNING` is applied by a resume. -/
  | resumed {task task' : Task} {sw' : Switch} {seen : ℕ} {generation : String}
      (record : sw.SameRecord sw') (fence : sw'.fence = sw.fence)
      (applies : appliesResume task input = some (seen, generation))
      (own : sw'.ks.ownHalted cfg = false) (outside : task.pastEntry = false) (outside' : task'.pastEntry = false)
      (halts : task'.halts = false) (drained : task'.drained = false) :
      Effect cfg sw me input task sw' task' (.resumed seen generation)
  /-- A submission passes its first check. -/
  | entered (free : sw.fence = none) (running : sw.ks.halted = false) :
      Effect cfg sw me input (.guardWaiting sw.ks.generation) { sw with fence := some me }
        (.guardReading sw.ks.generation sw.halts) .quiet
  /-- A submission is blocked after its read. -/
  | refused {expected : String} {seen : ℕ} {sw' : Switch} (record : sw.SameRecord sw')
      (fence : sw'.fence = none)
      (halted : (sw.ks.halted = true → sw'.ks.halted = true) ∨
        appliesRead sw (.guardReading expected seen) input = some seen)
      (own : sw'.ks.ownHalted cfg = true →
        sw'.ks.halted = true ∨ sw.ks.ownHalted cfg = true) :
      Effect cfg sw me input (.guardReading expected seen) sw' .idle .quiet
  /-- A submission passes its second check. -/
  | passed {expected : String} {seen : ℕ} {task' : Task} {sw' : Switch} {r : AuthorityRecord}
      (record : sw.SameRecord sw') (fence : sw'.fence = sw.fence)
      (halted : sw.ks.halted = false ∨
        appliesRead sw (.guardReading expected seen) input = some seen)
      (running : sw'.ks.halted = false) (current : sw'.ks.generation = expected)
      (authorized : r.authorizesRunning = true) (generation : r.generation = expected)
      (own : sw'.ks.ownHalted cfg = true → sw.ks.ownHalted cfg = true)
      (task_eq : task' = if cfg.failClosedOnAuthorityLoss then .guardLeasing expected r
        else .guardInside expected r none expected) :
      Effect cfg sw me input (.guardReading expected seen) sw' task' .quiet
  | admitted {expected : String} {r : AuthorityRecord} {lease : Lease}
      (generation : lease.generation = expected) (issuer : lease.issuedBy ∈ permissionIssuers) :
      Effect cfg sw me input (.guardLeasing expected r) sw
        (.guardInside expected r (some lease) sw.ks.generation) .quiet
  /-- A submission without a lease is blocked, or the body ends. -/
  | left {task : Task} {sw' : Switch} (record : sw.SameRecord sw') (fence : sw'.fence = none)
      (halted : sw.ks.halted = true → sw'.ks.halted = true)
      (own : sw'.ks.ownHalted cfg = true → sw.ks.ownHalted cfg = true)
      (inside : task.pastEntry = true) :
      Effect cfg sw me input task sw' .idle .quiet

theorem Switch.SameRecord.refl (sw : Switch) : sw.SameRecord sw := ⟨rfl, rfl, rfl, rfl, rfl⟩

theorem Switch.sameRecord_set (sw : Switch) (ks : KillSwitch) : sw.SameRecord (sw.set ks) :=
  ⟨rfl, rfl, rfl, rfl, rfl⟩

@[simp] theorem Switch.set_ks (sw : Switch) (ks : KillSwitch) : (sw.set ks).ks = ks := rfl

@[simp] theorem halted_forgetPermission (ks : KillSwitch) (generation : String) :
    (ks.forgetPermission generation).halted = ks.halted := by
  unfold forgetPermission
  split <;> rfl

@[simp] theorem ownHalted_forgetPermission (ks : KillSwitch) (cfg : Config) (generation : String) :
    (ks.forgetPermission generation).ownHalted cfg = ks.ownHalted cfg := by
  unfold forgetPermission
  split <;> rfl

theorem halted_beginHalt (ks : KillSwitch) (reason : String) (generation : Option String)
    (setAtTs : Timestamp) (newGeneration : String) :
    (ks.beginHalt reason generation setAtTs newGeneration).halted = true := by
  unfold beginHalt
  split
  · next h =>
    simp only [repeatsHalt, decide_eq_true_eq] at h
    exact h.1
  · rfl

theorem ownHalted_beginHalt {ks : KillSwitch} {cfg : Config} {reason : String}
    {generation : Option String} {setAtTs : Timestamp} {newGeneration : String}
    (h : (ks.beginHalt reason generation setAtTs newGeneration).ownHalted cfg = true) :
    ks.ownHalted cfg = true := by
  unfold beginHalt at h
  split at h
  · exact h
  · cases h

theorem strOr_remote_ne {cfg : Config} {sourceRole : Option String}
    (h : sourceRole ≠ some cfg.processRole.name) :
    strOr sourceRole (some "remote") ≠ some cfg.processRole.name := by
  have hremote : (some "remote" : Option String) ≠ some cfg.processRole.name := by
    cases cfg.processRole <;> decide
  cases sourceRole with
  | none => exact hremote
  | some text =>
    simp only [strOr]
    split
    · exact hremote
    · exact h

theorem ownHalted_adoptRecord {ks : KillSwitch} {cfg : Config} {r : AuthorityRecord}
    (h : (ks.adoptRecord r).ownHalted cfg = true) :
    r.state = .halted ∧ r.sourceRole = some cfg.processRole.name := by
  obtain ⟨hphase, hack⟩ := of_decide_eq_true h
  simp only [adoptRecord] at hphase hack
  refine ⟨?_, ?_⟩
  · by_contra hne
    rw [if_neg hne] at hphase
    cases hphase
  · have hstore : (some "authoritative_store" : Option String) ≠ some cfg.processRole.name := by
      cases cfg.processRole <;> decide
    cases hs : r.sourceRole with
    | none =>
      rw [hs] at hack
      exact absurd hack hstore
    | some text =>
      rw [hs] at hack
      simp only [strOr] at hack
      split at hack
      · exact absurd hack hstore
      · exact hack

section Effects

variable {cfg : Config} {sw : Switch} {me : ℕ} {input : Input}

theorem effect_quiet {task task' : Task} {sw' : Switch} (record : sw.SameRecord sw')
    (fence : sw'.fence = sw.fence) (halted : sw'.ks.halted = sw.ks.halted)
    (own : sw'.ks.ownHalted cfg = sw.ks.ownHalted cfg) (outside : task.pastEntry = false)
    (outside' : task'.pastEntry = false) (halts : task'.halts = true → task.halts = true)
    (drained : task'.drained = true → task.drained = true) :
    Effect cfg sw me input task sw' task' .quiet :=
  .internal record fence (fun h => halted.trans h) (fun h => .inl (own.symm.trans h)) outside
    outside' halts drained

theorem effect_latch {task task' : Task} (reason : String) (outside : task.pastEntry = false)
    (outside' : task'.pastEntry = false) (halts : task'.halts = true → task.halts = true)
    (drained : task'.drained = true → task.drained = true) :
    Effect cfg sw me input task (sw.set (sw.ks.latchDegraded reason)) task' .quiet :=
  .internal (sw.sameRecord_set _) rfl (fun _ => rfl) (fun h => by cases h) outside outside' halts
    drained

theorem finishHalt_effect {job : HaltJob} {final : Bool} {pc : PublishPc} {sw₀ : Switch}
    (record : sw.SameRecord sw₀) (fence : sw₀.fence = sw.fence)
    (halted : sw₀.ks.halted = sw.ks.halted)
    (own : sw₀.ks.ownHalted cfg = sw.ks.ownHalted cfg)
    (hfinal : cfg.isExecutionAuthority = true → final = true) :
    Effect cfg sw me input (.publishing job final pc) (finishHalt sw₀ job).1 (finishHalt sw₀ job).2.1
      (finishHalt sw₀ job).2.2 := by
  unfold finishHalt
  split
  · exact effect_quiet record fence halted own rfl rfl (fun h => by cases h) (fun h => by cases h)
  · exact .returned record fence halted rfl hfinal
  · refine effect_quiet ?_ fence halted own rfl rfl (fun h => by cases h) (fun h => by cases h)
    exact ⟨record.halts, record.haltGenerations, record.resumedSince, record.cleared, record.acked⟩

theorem afterPublish_effect {job : HaltJob} {final : Bool} {pc : PublishPc} {sw₀ : Switch}
    (record : sw.SameRecord sw₀) (fence : sw₀.fence = sw.fence)
    (halted : sw₀.ks.halted = sw.ks.halted)
    (own : sw₀.ks.ownHalted cfg = sw.ks.ownHalted cfg) :
    Effect cfg sw me input (.publishing job final pc) (afterPublish cfg sw₀ job final).1
      (afterPublish cfg sw₀ job final).2.1 (afterPublish cfg sw₀ job final).2.2 := by
  unfold afterPublish
  split
  · next hfinal => exact finishHalt_effect record fence halted own (fun _ => hfinal)
  · split
    · exact effect_quiet record fence halted own rfl rfl (fun _ => rfl) (fun h => by cases h)
    · next hrole => exact finishHalt_effect record fence halted own (fun h => absurd h hrole)

theorem publishUnlessRepeated_effect {job : HaltJob} {final : Bool} {pc : PublishPc} {sw₀ : Switch}
    (record : sw.SameRecord sw₀) (fence : sw₀.fence = sw.fence)
    (halted : sw₀.ks.halted = sw.ks.halted)
    (own : sw₀.ks.ownHalted cfg = sw.ks.ownHalted cfg) :
    Effect cfg sw me input (.publishing job final pc) (publishUnlessRepeated cfg sw₀ job final).1
      (publishUnlessRepeated cfg sw₀ job final).2.1
      (publishUnlessRepeated cfg sw₀ job final).2.2 := by
  unfold publishUnlessRepeated
  split
  · exact afterPublish_effect record fence halted own
  · refine effect_quiet ?_ fence halted own rfl rfl (fun _ => rfl) (fun h => h)
    exact ⟨record.halts, record.haltGenerations, record.resumedSince, record.cleared, record.acked⟩

theorem advancePublish_effect {job : HaltJob} {final : Bool} {pc : PublishPc} {m : Move}
    (h : advancePublish cfg sw me job final pc input = some m) :
    Effect cfg sw me input (.publishing job final pc) m.1 m.2.1 m.2.2 := by
  unfold advancePublish at h
  split at h
  · split at h
    · injection h with h
      exact h ▸ publishUnlessRepeated_effect (.refl sw) rfl rfl rfl
    · injection h with h
      exact h ▸ effect_quiet (.refl sw) rfl rfl rfl rfl rfl (fun _ => rfl) (fun h => h)
  · split at h
    · injection h with h
      subst h
      exact effect_quiet ⟨rfl, rfl, rfl, rfl, rfl⟩ rfl rfl rfl rfl rfl (fun _ => rfl) (fun h => h)
    · cases h
  · next generation rest ok now =>
    split at h
    · split at h
      · injection h with h
        exact h ▸ publishUnlessRepeated_effect ⟨rfl, rfl, rfl, rfl, rfl⟩ rfl
          (halted_forgetPermission sw.ks generation) (ownHalted_forgetPermission sw.ks cfg generation)
      · injection h with h
        exact h ▸ effect_quiet (sw.sameRecord_set _) rfl (halted_forgetPermission sw.ks generation)
          (ownHalted_forgetPermission sw.ks cfg generation) rfl rfl (fun _ => rfl) (fun h => h)
    · injection h with h
      exact h ▸ publishUnlessRepeated_effect ⟨rfl, rfl, rfl, rfl, rfl⟩ rfl rfl rfl
  · injection h with h
    exact h ▸ effect_quiet (.refl sw) rfl rfl rfl rfl rfl (fun _ => rfl) (fun h => h)
  · injection h with h
    exact h ▸ afterPublish_effect (.refl sw) rfl rfl rfl
  · cases h

theorem advanceDrain_effect {job : HaltJob} {m : Move}
    (h : advanceDrain cfg sw job input = some m) :
    Effect cfg sw me input (.draining job) m.1 m.2.1 m.2.2 := by
  unfold advanceDrain at h
  split at h
  · split at h
    · next hfree =>
      injection h with h
      subst h
      refine .drained (sw.sameRecord_set _) hfree hfree ?_ rfl
      simp only [Switch.set_ks, markHaltEnforced]
      split <;> rfl
    · cases h
  · cases h

theorem finishRenew_effect {task : Task} {after : AfterRenew} {raised : Bool} {now : Timestamp}
    {sw₀ : Switch} (record : sw.SameRecord sw₀) (fence : sw₀.fence = sw.fence)
    (halted : sw₀.ks.halted = sw.ks.halted)
    (own : sw₀.ks.ownHalted cfg = sw.ks.ownHalted cfg) (outside : task.pastEntry = false) :
    Effect cfg sw me input task (finishRenew sw₀ after raised now).1
      (finishRenew sw₀ after raised now).2 .quiet := by
  have hlatch : ∀ reason, Effect cfg sw me input task (sw₀.set (sw₀.ks.latchDegraded reason)) .idle
      .quiet := by
    intro reason
    refine .internal ?_ fence (fun _ => rfl) (fun h => by cases h) outside rfl
      (fun h => by cases h) (fun h => by cases h)
    exact ⟨record.halts, record.haltGenerations, record.resumedSince, record.cleared, record.acked⟩
  have hkeep : ∀ task', task'.pastEntry = false → task'.halts = false → task'.drained = false →
      Effect cfg sw me input task sw₀ task' .quiet := by
    intro task' hout hhalts hdrained
    exact effect_quiet record fence halted own outside hout (fun h => by rw [hhalts] at h; cases h)
      (fun h => by rw [hdrained] at h; cases h)
  unfold finishRenew
  split
  · split
    · exact hlatch _
    · exact hkeep _ rfl rfl rfl
  · split
    · exact hlatch _
    · exact hkeep _ rfl rfl rfl
  · split
    · exact hlatch _
    · exact hkeep _ rfl rfl rfl

theorem releaseRenew_effect {task : Task} {after : AfterRenew} {raised : Bool} {now : Timestamp}
    {sw₀ : Switch} {m : Move} (record : sw.SameRecord sw₀) (fence : sw₀.fence = sw.fence)
    (halted : sw₀.ks.halted = sw.ks.halted)
    (own : sw₀.ks.ownHalted cfg = sw.ks.ownHalted cfg) (outside : task.pastEntry = false)
    (h : releaseRenew sw₀ after raised now = some m) :
    Effect cfg sw me input task m.1 m.2.1 m.2.2 := by
  injection h with h
  subst h
  refine finishRenew_effect ?_ fence halted own outside
  exact ⟨record.halts, record.haltGenerations, record.resumedSince, record.cleared, record.acked⟩

theorem advanceRenew_effect {after : AfterRenew} {pc : RenewPc} {m : Move}
    (h : advanceRenew cfg sw me after pc input = some m) :
    Effect cfg sw me input (.renewing after pc) m.1 m.2.1 m.2.2 := by
  -- what a renewal can do besides releasing: take the lock, go on, forget a permission
  have hlock : ∀ pc', Effect cfg sw me input (.renewing after pc) { sw with ioLock := some me }
      (.renewing after pc') .quiet := fun pc' =>
    effect_quiet ⟨rfl, rfl, rfl, rfl, rfl⟩ rfl rfl rfl rfl rfl (fun h => by cases h)
      (fun h => by cases h)
  have hstay : ∀ pc', Effect cfg sw me input (.renewing after pc) sw (.renewing after pc') .quiet :=
    fun pc' => effect_quiet (.refl sw) rfl rfl rfl rfl rfl (fun h => by cases h)
      (fun h => by cases h)
  have hforget : ∀ generation pc', Effect cfg sw me input (.renewing after pc)
      (sw.set (sw.ks.forgetPermission generation)) (.renewing after pc') .quiet :=
    fun generation pc' => effect_quiet (sw.sameRecord_set _) rfl
      (halted_forgetPermission sw.ks generation) (ownHalted_forgetPermission sw.ks cfg generation)
      rfl rfl (fun h => by cases h) (fun h => by cases h)
  unfold advanceRenew at h
  split at h
  · injection h with h
    exact h ▸ finishRenew_effect (.refl sw) rfl rfl rfl rfl
  · split at h
    · injection h with h
      exact h ▸ hlock _
    · cases h
  · next generation rest ok now =>
    split at h
    · split at h
      · exact releaseRenew_effect (sw.sameRecord_set (sw.ks.forgetPermission generation)) rfl
          (halted_forgetPermission sw.ks generation) (ownHalted_forgetPermission sw.ks cfg generation)
          rfl h
      · injection h with h
        exact h ▸ hforget generation _
    · exact releaseRenew_effect (.refl sw) rfl rfl rfl rfl h
  · split at h
    · split at h
      · injection h with h
        exact h ▸ hlock _
      · injection h with h
        exact h ▸ hlock _
    · cases h
  · next generation raises ok now =>
    split at h
    · exact releaseRenew_effect (sw.sameRecord_set (sw.ks.forgetPermission generation)) rfl
        (halted_forgetPermission sw.ks generation) (ownHalted_forgetPermission sw.ks cfg generation)
        rfl h
    · exact releaseRenew_effect (.refl sw) rfl rfl rfl rfl h
  · next generation r now =>
    split at h
    · exact releaseRenew_effect (.refl sw) rfl rfl rfl rfl h
    · next hts =>
      split at h
      · next hauth =>
        -- the authoritative halt is adopted; it may acknowledge for this role
        injection h with h
        subst h
        refine .internal (sw.sameRecord_set _) rfl (fun _ => rfl) ?_ rfl rfl (fun h => by cases h)
          (fun h => by cases h)
        intro hown
        obtain ⟨hstate, hsource⟩ := ownHalted_adoptRecord hown
        exact .inr ⟨decide_eq_true ⟨not_le.mp hts, by simpa using hauth, hstate, hsource⟩, rfl⟩
      · split at h
        · injection h with h
          exact h ▸ hstay _
        · split at h
          · injection h with h
            exact h ▸ hstay _
          · split at h
            · split at h
              · injection h with h
                exact h ▸ hstay _
              · injection h with h
                exact h ▸ hstay _
            · injection h with h
              exact h ▸ hstay _
  · exact releaseRenew_effect (.refl sw) rfl rfl rfl rfl h
  · next generation previous ok now =>
    split at h
    · injection h with h
      exact h ▸ hforget previous _
    · exact releaseRenew_effect (.refl sw) rfl rfl rfl rfl h
  · next generation ok now =>
    split at h
    · exact releaseRenew_effect (sw.sameRecord_set (sw.ks.grantPermission generation now)) rfl rfl rfl
        rfl h
    · exact releaseRenew_effect (.refl sw) rfl rfl rfl rfl h
  · cases h

theorem advanceGuardWaiting_effect {expected : String} {m : Move}
    (h : advanceGuardWaiting sw me expected input = some m) :
    Effect cfg sw me input (.guardWaiting expected) m.1 m.2.1 m.2.2 := by
  unfold advanceGuardWaiting at h
  split at h
  · split at h
    · next hfree =>
      split at h
      · injection h with h
        exact h ▸ effect_quiet (.refl sw) rfl rfl rfl rfl rfl (fun h => by cases h)
          (fun h => by cases h)
      · next hopen =>
        injection h with h
        subst h
        simp only [not_or, not_not, Bool.not_eq_true] at hopen
        obtain ⟨hrunning, hgen⟩ := hopen
        subst hgen
        exact .entered hfree hrunning
    · cases h
  · cases h

/-- What the authority read of a submission does: it unblocks only by applying a record, and if
it leaves the switch running, the record it has read authorizes the current generation. -/
structure RefreshSpec (cfg : Config) (sw : Switch) (ks : KillSwitch)
    (result : Except String AuthorityRecord) (applies : Prop) : Prop where
  halted : (sw.ks.halted = true → ks.halted = true) ∨ applies
  own : ks.ownHalted cfg = true → ks.halted = true ∨ sw.ks.ownHalted cfg = true
  running : ∀ r, result = .ok r → ks.halted = false →
    r.authorizesRunning = true ∧ r.generation = ks.generation ∧
    (ks.ownHalted cfg = true → sw.ks.ownHalted cfg = true) ∧ (sw.ks.halted = false ∨ applies)

theorem refreshSpec_latch (cfg : Config) (sw : Switch) (reason message : String) (applies : Prop) :
    RefreshSpec cfg sw (sw.ks.latchDegraded reason) (.error message) applies where
  halted := .inl fun _ => rfl
  own := fun h => by cases h
  running := fun r hr => by cases hr

theorem refreshAuthoritativeState_spec (cfg : Config) (sw : Switch) (expected : String) (seen : ℕ)
    (answer : StoreAnswer AuthorityRecord) (now : Timestamp) {ks : KillSwitch}
    {result : Except String AuthorityRecord}
    (h : sw.ks.refreshAuthoritativeState answer = (ks, result)) :
    RefreshSpec cfg sw ks result
      (appliesRead sw (.guardReading expected seen) (.authority answer now) = some seen) := by
  cases answer with
  | unavailable =>
    obtain ⟨rfl, rfl⟩ := Prod.mk.inj h
    exact refreshSpec_latch cfg sw _ _ _
  | missing =>
    obtain ⟨rfl, rfl⟩ := Prod.mk.inj h
    exact refreshSpec_latch cfg sw _ _ _
  | invalid =>
    obtain ⟨rfl, rfl⟩ := Prod.mk.inj h
    exact refreshSpec_latch cfg sw _ _ _
  | value r =>
    simp only [refreshAuthoritativeState] at h
    split at h
    · obtain ⟨rfl, rfl⟩ := Prod.mk.inj h
      exact refreshSpec_latch cfg sw _ _ _
    · next hts =>
      split at h
      · -- a halted record is adopted
        obtain ⟨rfl, rfl⟩ := Prod.mk.inj h
        exact { halted := .inl fun _ => rfl
                own := fun _ => .inl rfl
                running := fun r' _ hrun => by cases hrun }
      · next hauth =>
        have hauth' : r.authorizesRunning = true := by simpa using hauth
        split at h
        · next hgen =>
          -- a running record of another generation is applied
          obtain ⟨rfl, rfl⟩ := Prod.mk.inj h
          have happlies : appliesRead sw (.guardReading expected seen) (.authority (.value r) now) =
              some seen := by
            simp only [appliesRead]
            rw [if_pos ⟨not_le.mp hts, hauth', hgen⟩]
          refine ⟨.inr happlies, (fun hown => by cases hown), ?_⟩
          intro r' hr _
          injection hr with hr
          subst hr
          exact ⟨hauth', rfl, (fun hown => by cases hown), .inr happlies⟩
        · next hgen =>
          -- the record confirms what is known
          obtain ⟨rfl, rfl⟩ := Prod.mk.inj h
          refine ⟨.inl fun hh => hh, fun hown => .inr hown, ?_⟩
          intro r' hr hrun
          injection hr with hr
          subst hr
          exact ⟨hauth', not_not.mp hgen, fun hown => hown, .inl hrun⟩

theorem advanceGuardReading_effect {expected : String} {seen : ℕ} {m : Move}
    (h : advanceGuardReading cfg sw expected input = some m) :
    Effect cfg sw me input (.guardReading expected seen) m.1 m.2.1 m.2.2 := by
  unfold advanceGuardReading at h
  split at h
  · next answer now =>
    split at h
    · next ks reason hrefresh =>
      obtain ⟨hhalted, hown, -⟩ :=
        refreshAuthoritativeState_spec cfg sw expected seen answer now hrefresh
      injection h with h
      subst h
      exact .refused ⟨rfl, rfl, rfl, rfl, rfl⟩ rfl hhalted hown
    · next ks r hrefresh =>
      obtain ⟨hhalted, hown, hok⟩ :=
        refreshAuthoritativeState_spec cfg sw expected seen answer now hrefresh
      split at h
      · injection h with h
        subst h
        exact .refused ⟨rfl, rfl, rfl, rfl, rfl⟩ rfl hhalted hown
      · next hopen =>
        simp only [not_or, not_not, Bool.not_eq_true] at hopen
        obtain ⟨hrunning, hexpected⟩ := hopen
        obtain ⟨hauth, hgen, hown', hbefore⟩ := hok r rfl hrunning
        have hpassed : ∀ task', (task' = if cfg.failClosedOnAuthorityLoss then
            Task.guardLeasing expected r else .guardInside expected r none expected) →
            Effect cfg sw me (.authority answer now) (.guardReading expected seen) (sw.set ks) task'
              .quiet := fun task' htask =>
          .passed (sw.sameRecord_set ks) rfl hbefore hrunning hexpected.symm hauth
            (hgen.trans hexpected.symm) hown' htask
        split at h
        · next hclosed =>
          injection h with h
          exact h ▸ hpassed _ (by rw [if_pos hclosed])
        · next hclosed =>
          injection h with h
          exact h ▸ hpassed _ (by rw [if_neg hclosed, hexpected])
  · cases h

theorem advanceGuardLeasing_effect {expected : String} {r : AuthorityRecord} {m : Move}
    (h : advanceGuardLeasing sw expected r input = some m) :
    Effect cfg sw me input (.guardLeasing expected r) m.1 m.2.1 m.2.2 := by
  unfold advanceGuardLeasing at h
  split at h
  · next answer =>
    split at h
    · injection h with h
      subst h
      exact .left ⟨rfl, rfl, rfl, rfl, rfl⟩ rfl (fun _ => rfl) (fun hown => by cases hown) rfl
    · next lease hlease =>
      injection h with h
      subst h
      unfold requireTradingPermission at hlease
      split at hlease
      · cases hlease
      · cases hlease
      · cases hlease
      · split at hlease
        · cases hlease
        · split at hlease
          · cases hlease
          · next hgen =>
            split at hlease
            · cases hlease
            · next hissuer =>
              injection hlease with hlease
              subst hlease
              exact .admitted (not_not.mp hgen) (not_not.mp hissuer)
  · cases h

theorem advanceGuardInside_effect {expected : String} {r : AuthorityRecord} {lease : Option Lease}
    {current : String} {m : Move} (h : advanceGuardInside sw input = some m) :
    Effect cfg sw me input (.guardInside expected r lease current) m.1 m.2.1 m.2.2 := by
  unfold advanceGuardInside at h
  split at h
  · injection h with h
    subst h
    exact .left ⟨rfl, rfl, rfl, rfl, rfl⟩ rfl (fun hh => hh) (fun hown => hown) rfl
  · cases h

theorem advanceCheckingResume_effect {event : AuthorityRecord} {seen : ℕ} {m : Move}
    (h : advanceCheckingResume sw event seen input = some m) :
    Effect cfg sw me input (.checkingResume event seen) m.1 m.2.1 m.2.2 := by
  unfold advanceCheckingResume at h
  split at h
  · next answer now =>
    split at h
    · next hmatch =>
      injection h with h
      subst h
      refine .resumed (sw.sameRecord_set _) rfl ?_ rfl rfl rfl rfl rfl
      simp only [appliesResume]
      rw [if_pos hmatch]
    · injection h with h
      exact h ▸ effect_latch _ rfl rfl (fun h => by cases h) (fun h => by cases h)
  · cases h

theorem beginRenew_task (cfg : Config) (sw : Switch) (after : AfterRenew) :
    (beginRenew cfg sw after).pastEntry = false ∧ (beginRenew cfg sw after).halts = false ∧
      (beginRenew cfg sw after).drained = false := by
  unfold beginRenew
  split <;> exact ⟨rfl, rfl, rfl⟩

theorem advanceResumeWriting_effect {generation : String} {setAtTs : Timestamp} {seen : ℕ}
    {m : Move} (h : advanceResumeWriting cfg sw generation setAtTs seen input = some m) :
    Effect cfg sw me input (.resumeWriting generation setAtTs seen) m.1 m.2.1 m.2.2 := by
  unfold advanceResumeWriting at h
  split at h
  · split at h
    · injection h with h
      subst h
      obtain ⟨hout, hhalts, hdrained⟩ := beginRenew_task cfg
        (sw.set (sw.ks.applyRunning generation setAtTs (some cfg.processRole.name)))
        (.resumeFinish generation)
      exact .resumed (sw.sameRecord_set _) rfl rfl rfl rfl hout hhalts hdrained
    · injection h with h
      subst h
      exact .resumed (sw.sameRecord_set _) rfl rfl rfl rfl rfl rfl rfl
  · injection h with h
    exact h ▸ effect_latch _ rfl rfl (fun h => by cases h) (fun h => by cases h)
  · cases h

theorem advanceResumeBroadcasting_effect {generation : String} {m : Move}
    (h : advanceResumeBroadcasting sw generation input = some m) :
    Effect cfg sw me input (.resumeBroadcasting generation) m.1 m.2.1 m.2.2 := by
  unfold advanceResumeBroadcasting at h
  split at h
  · injection h with h
    exact h ▸ effect_quiet (sw.sameRecord_set _) rfl rfl rfl rfl rfl (fun h => by cases h)
      (fun h => by cases h)
  · cases h

theorem launchRemoteHalt_effect {event : AuthorityRecord}
    (hsource : event.sourceRole ≠ some cfg.processRole.name) :
    Effect cfg sw me input .idle (launchRemoteHalt cfg sw event).1
      (launchRemoteHalt cfg sw event).2.1 (launchRemoteHalt cfg sw event).2.2 := by
  unfold launchRemoteHalt
  split
  · refine .began (sw.sameRecord_set _) rfl (halted_beginHalt sw.ks _ _ _ _) ?_ rfl rfl
    intro hown
    exact absurd (of_decide_eq_true hown).2 (strOr_remote_ne hsource)
  · split
    · exact .began (sw.sameRecord_set _) rfl (halted_beginHalt sw.ks _ _ _ _) ownHalted_beginHalt rfl
        rfl
    · exact .began (sw.sameRecord_set _) rfl (halted_beginHalt sw.ks _ _ _ _) ownHalted_beginHalt rfl
        rfl

theorem launchRemote_effect {event : AuthorityRecord} :
    Effect cfg sw me input .idle (launchRemote cfg sw event).1 (launchRemote cfg sw event).2.1
      (launchRemote cfg sw event).2.2 := by
  unfold launchRemote
  split
  · exact effect_quiet (.refl sw) rfl rfl rfl rfl rfl (fun h => by cases h) (fun h => by cases h)
  · next haccepts =>
    split
    · have hsource : event.sourceRole ≠ some cfg.processRole.name :=
        (of_decide_eq_true (not_not.mp haccepts)).2.1
      exact launchRemoteHalt_effect hsource
    · split
      · exact effect_latch _ rfl rfl (fun h => by cases h) (fun h => by cases h)
      · exact effect_quiet (.refl sw) rfl rfl rfl rfl rfl (fun h => by cases h)
          (fun h => by cases h)

theorem launch_effect {m : Move} (h : launch cfg sw input = some m) :
    Effect cfg sw me input .idle m.1 m.2.1 m.2.2 := by
  unfold launch at h
  split at h
  · split at h
    · injection h with h
      subst h
      exact .began (sw.sameRecord_set _) rfl (halted_beginHalt sw.ks _ _ _ _) ownHalted_beginHalt rfl
        rfl
    · cases h
  · split at h
    · injection h with h
      subst h
      exact .began (sw.sameRecord_set _) rfl (halted_beginHalt sw.ks _ _ _ _) ownHalted_beginHalt rfl
        rfl
    · cases h
  · injection h with h
    exact h ▸ launchRemote_effect
  · injection h with h
    exact h ▸ effect_quiet (.refl sw) rfl rfl rfl rfl rfl (fun h => by cases h)
      (fun h => by cases h)
  · split at h
    · injection h with h
      obtain ⟨hout, hhalts, hdrained⟩ := beginRenew_task cfg sw .loop
      exact h ▸ effect_quiet (.refl sw) rfl rfl rfl rfl hout
        (fun h => by rw [hhalts] at h; cases h) (fun h => by rw [hdrained] at h; cases h)
    · cases h
  · split at h
    · injection h with h
      subst h
      unfold launchResume
      split
      · split
        · obtain ⟨hout, hhalts, hdrained⟩ := beginRenew_task cfg sw .resumeEarly
          exact effect_quiet (.refl sw) rfl rfl rfl rfl hout
            (fun h => by rw [hhalts] at h; cases h) (fun h => by rw [hdrained] at h; cases h)
        · exact effect_quiet (.refl sw) rfl rfl rfl rfl rfl (fun h => by cases h)
            (fun h => by cases h)
      · exact .internal (sw.sameRecord_set _) rfl (fun _ => rfl) (fun hown => by cases hown) rfl rfl
          (fun h => by cases h) (fun h => by cases h)
    · cases h
  · cases h

theorem move_effect {task : Task} {m : Move} (h : move cfg sw me task input = some m) :
    Effect cfg sw me input task m.1 m.2.1 m.2.2 := by
  cases task with
  | idle => exact launch_effect h
  | publishing job final pc => exact advancePublish_effect h
  | draining job => exact advanceDrain_effect h
  | checkingResume event seen => exact advanceCheckingResume_effect h
  | guardWaiting expected => exact advanceGuardWaiting_effect h
  | guardReading expected seen => exact advanceGuardReading_effect h
  | guardLeasing expected record => exact advanceGuardLeasing_effect h
  | guardInside expected record lease current => exact advanceGuardInside_effect h
  | renewing after pc => exact advanceRenew_effect h
  | resumeWriting generation setAtTs seen => exact advanceResumeWriting_effect h
  | resumeBroadcasting generation => exact advanceResumeBroadcasting_effect h

theorem advance_effect {task task' : Task} {sw' : Switch}
    (h : advance cfg sw me task input = some (sw', task')) :
    ∃ sw₀ event, sw' = sw₀.note cfg event ∧ Effect cfg sw me input task sw₀ task' event := by
  obtain ⟨m, hm, heq⟩ := Option.map_eq_some_iff.mp h
  obtain ⟨rfl, rfl⟩ := Prod.mk.inj heq
  exact ⟨m.1, m.2.2, rfl, move_effect hm⟩

end Effects

end Aats.Governance
