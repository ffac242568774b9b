import Aats.Recovery.StartupRecovery

/-!
# Starting over unresolved orders

An order that stays `CREATED` or `SUBMITTING` without a venue order id, after the exchange was asked,
is unresolved. Whether the start stops over it is decided by a difference of two counts: the
unresolved orders of a category less the orders that were resolved. A resolved order has left the
ledger's stuck orders, so each one excuses an order that is still unresolved.

## Main definitions
* `Startup.leftOrders`, `Startup.resolvedCount` — the stuck orders that no answer was written for,
  and the number of those an answer resolved.

## Main results
* `halted_recover` — when the kill switch is halted after `recover`.
* `stopsOverUnresolved_iff` — **a start stops over unresolved orders exactly when something else
  stops it, or those of one category outnumber the resolved ones**.
-/

namespace Aats.Recovery

open Execution
open Governance (KillSwitch)

/-! ### What the steps halt on -/

def reportHalts (inputs : RecoveryInputs) : Prop :=
  ∃ report, inputs.reconciliation = some report ∧
    (report.haltRequired = true ∨ report.severity = .hardMismatch)

theorem haltRequired_annotate (report : ReconciliationReport) :
    (annotate report).haltRequired = true ↔
      report.haltRequired = true ∨ report.severity = .hardMismatch := by
  unfold annotate classify
  simp only []
  split
  · next h => simp [h]
  · next h =>
    simp only [h, iff_false]
    split
    · simp
    · split
      · simp
      · split
        · simp
        · split <;> simp

theorem resumeBlocking_annotate {report : ReconciliationReport}
    (h : (annotate report).haltRequired = true) : (annotate report).resumeBlocking = true := by
  rw [haltRequired_annotate] at h
  unfold annotate classify
  simp [h]

section Steps

variable (inputs : RecoveryInputs) (phase : Phase4)

theorem halted_haltAndBlock (haltReason blockedReason : String) :
    (haltAndBlock inputs haltReason blockedReason phase).killSwitch.halted = true := by
  unfold haltAndBlock
  exact halted_haltSwitch _ _ _

theorem halted_applyReconciliation :
    (applyReconciliation inputs phase).killSwitch.halted = true ↔
      phase.killSwitch.halted = true ∨ reportHalts inputs := by
  unfold applyReconciliation reportHalts
  cases hreport : inputs.reconciliation with
  | none => simp
  | some report =>
    simp only [Option.map_some, Option.some.injEq, exists_eq_left']
    rw [← haltRequired_annotate]
    unfold applyResumeBlocking
    by_cases hhalt : (annotate report).haltRequired = true
    · simp [hhalt, resumeBlocking_annotate hhalt]
    · by_cases hblock : (annotate report).resumeBlocking = true
      · simp [hhalt, hblock]
      · simp [hhalt, hblock]

theorem halted_blockStuckSent (stuckSent resolved : ℕ) :
    (blockStuckSent inputs stuckSent resolved phase).killSwitch.halted = true ↔
      phase.killSwitch.halted = true ∨ resolved < stuckSent := by
  unfold blockStuckSent
  split
  · next h => simp [h, halted_haltAndBlock]
  · next h => simp [h]

theorem commandCounts_blockStuckSent (stuckSent resolved : ℕ) :
    (blockStuckSent inputs stuckSent resolved phase).status.commandCounts =
      phase.status.commandCounts := by
  unfold blockStuckSent
  split <;> rfl

theorem halted_blockClaimed (claimed : ℕ) :
    (blockClaimed inputs claimed phase).killSwitch.halted = true ↔
      phase.killSwitch.halted = true ∨ claimed ≠ 0 := by
  unfold blockClaimed
  split
  · next h => simp [h, halted_haltAndBlock]
  · next h => simp [h]

theorem pendingTotal_blockClaimed (claimed : ℕ) :
    (blockClaimed inputs claimed phase).status.commandCounts.pendingTotal =
      phase.status.commandCounts.pendingTotal - claimed := by
  unfold blockClaimed
  split
  · rfl
  · next h =>
    rw [not_not] at h
    rw [h, Nat.sub_zero]

theorem halted_blockPending :
    (blockPending inputs phase).killSwitch.halted = true ↔
      phase.killSwitch.halted = true ∨ phase.status.commandCounts.pendingTotal ≠ 0 := by
  unfold blockPending
  split
  · next h => simp [h, halted_haltAndBlock]
  · next h => simp [h]

theorem halted_blockStranded (stranded resolved : ℕ) :
    (blockStranded inputs stranded resolved phase).killSwitch.halted = true ↔
      phase.killSwitch.halted = true ∨ resolved < stranded := by
  unfold blockStranded
  split
  · next h => simp [h, halted_haltAndBlock]
  · next h => simp [h]

end Steps

/-! ### The orders that are left -/

theorem filter_map_eq {α : Type*} {items : List α} {f : α → α} {p keep : α → Bool}
    (h : ∀ item ∈ items, p (f item) = (p item && keep item) ∧
      ((p item && keep item) = true → f item = item)) :
    (items.map f).filter p = (items.filter p).filter keep := by
  induction items with
  | nil => rfl
  | cons item items ih =>
    obtain ⟨hp, hfix⟩ := h item (List.mem_cons_self ..)
    have ih := ih (fun other hother => h other (List.mem_cons_of_mem _ hother))
    rw [List.filter_filter] at ih ⊢
    rw [List.map_cons, List.filter_cons, List.filter_cons, hp, ih]
    by_cases hkeep : (p item && keep item) = true
    · rw [if_pos hkeep, if_pos (by rwa [Bool.and_comm]), hfix hkeep]
    · rw [if_neg hkeep, if_neg (by rwa [Bool.and_comm])]

namespace Startup

variable (startup : Startup)

def stuckOrders : List LedgerOrder :=
  collectStuckOrders (listOrdersForScope startup.inputs.scope startup.orders true)

/-- What a stuck order comes to; without a client it is not asked about. -/
def resolution (order : LedgerOrder) : Resolution :=
  match startup.exchange with
  | none => .skipped
  | some exchange => resolveOrder exchange order

/-- The stuck orders that no answer was written for. -/
def leftOrders : List LedgerOrder :=
  startup.stuckOrders.filter (fun order => (startup.resolution order).saved = none)

/-- The number of stuck orders that an answer resolved. -/
def resolvedCount : ℕ :=
  startup.stuckOrders.countP (fun order => (startup.resolution order).counted)

def leftCount (finding : SubmitFinding) : ℕ :=
  startup.leftOrders.countP (fun order => submitFinding startup.commands order = finding)

/-- The orders of the scope that are stuck after the exchange was asked. -/
def unresolvedOrders : List LedgerOrder := collectStuckOrders startup.openOrders

theorem stuckOrders_subset : startup.stuckOrders ⊆ startup.orders := by
  intro order h
  exact (List.mem_filter.mp (List.mem_filter.mp h).1).1

theorem nodup_stuckOrders : startup.stuckOrders.Nodup :=
  ((List.Nodup.of_map _ startup.nodup_clientOrderId).filter _).filter _

theorem preRecover_eq :
    startup.preRecover.orders = startup.orders.map (fun order =>
        if order ∈ startup.stuckOrders then (startup.resolution order).saved.getD order
        else order) ∧
      startup.preRecover.resolved = startup.resolvedCount := by
  unfold preRecover reconcileStuckOrders resolvedCount resolution
  cases startup.exchange with
  | none => exact ⟨by simp [Resolution.saved], by simp [Resolution.counted]⟩
  | some exchange =>
    obtain ⟨horders, hresolved⟩ := reconcileAll_eq exchange startup.nodup_stuckOrders
      { orders := startup.orders } startup.nodup_clientOrderId startup.stuckOrders_subset
    exact ⟨horders, by rw [← Nat.zero_add (List.countP _ _)]; exact hresolved⟩

theorem isStuck_of_saved {order saved : LedgerOrder}
    (h : (startup.resolution order).saved = some saved) : saved.isStuck = false := by
  unfold resolution at h
  cases hex : startup.exchange with
  | none =>
    rw [hex] at h
    cases h
  | some exchange =>
    rw [hex] at h
    simp only [] at h
    cases hres : resolveOrder exchange order with
    | skipped =>
      rw [hres] at h
      cases h
    | unreachable =>
      rw [hres] at h
      cases h
    | written stored counted =>
      rw [hres] at h
      cases h
      exact (of_written hres).2

/-- A row of the scope that is open and stuck. -/
def isUnresolved (order : LedgerOrder) : Bool :=
  order.isStuck && (rowInScope startup.inputs.scope order && !order.row.state.isTerminal)

theorem collectStuckOrders_eq (orders : List LedgerOrder) :
    collectStuckOrders (listOrdersForScope startup.inputs.scope orders true) =
      orders.filter startup.isUnresolved := by
  unfold collectStuckOrders listOrdersForScope
  rw [List.filter_filter]
  rfl

theorem unresolvedOrders_eq : startup.unresolvedOrders = startup.leftOrders := by
  have hstuck : startup.stuckOrders = startup.orders.filter startup.isUnresolved :=
    startup.collectStuckOrders_eq _
  show collectStuckOrders (listOrdersForScope _ startup.preRecover.orders true) =
    startup.stuckOrders.filter _
  rw [startup.preRecover_eq.1, collectStuckOrders_eq, hstuck]
  apply filter_map_eq
  intro order horder
  by_cases hin : startup.isUnresolved order = true
  · rw [if_pos (List.mem_filter.mpr ⟨horder, hin⟩), hin]
    cases hsaved : (startup.resolution order).saved with
    | none => simp [hin]
    | some saved => simp [isUnresolved, startup.isStuck_of_saved hsaved]
  · rw [if_neg (fun h => hin (List.mem_filter.mp h).2)]
    simp [hin]

theorem submitCounts_eq :
    startup.submitCounts =
      { stranded := startup.leftCount .stranded
        stuckSent := startup.leftCount .stuckSent
        claimedSubmit := startup.leftCount .claimedSubmit } := by
  unfold leftCount
  rw [← startup.unresolvedOrders_eq]
  rfl

/-! ### When a start stops -/

/-- What stops a start besides the two differences. -/
inductive StopsAnyway : Prop
  | alreadyHalted (h : startup.killSwitch.halted = true)
  | base (h : BaseHalts startup.inputs startup.preRecover.orders)
  /-- The latest reconciliation asks for a halt. -/
  | report (h : reportHalts startup.inputs)
  /-- An order is left whose submit command is claimed. -/
  | claimed (h : startup.leftCount .claimedSubmit ≠ 0)
  /-- Commands are pending, besides those of such orders. -/
  | pending (h : startup.leftCount .claimedSubmit <
      (startup.commands.filter (fun c => c.state = .pending ∨ c.state = .claimed)).length)

theorem halted_phase4Steps (base : RecoveryStatus) (ks : KillSwitch) :
    (startup.phase4Steps base ks).killSwitch.halted = true ↔
      (((((ks.halted = true ∨ reportHalts startup.inputs) ∨
        startup.resolvedCount < startup.leftCount .stuckSent) ∨
        startup.leftCount .claimedSubmit ≠ 0) ∨
        (startup.commands.filter (fun c => c.state = .pending ∨ c.state = .claimed)).length -
          startup.leftCount .claimedSubmit ≠ 0) ∨
        startup.resolvedCount < startup.leftCount .stranded) := by
  have hpending : (startup.phase4Start base ks).status.commandCounts.pendingTotal =
      (startup.commands.filter (fun c => c.state = .pending ∨ c.state = .claimed)).length := rfl
  unfold phase4Steps
  simp only [halted_blockStranded, halted_blockPending, halted_blockClaimed,
    halted_blockStuckSent, halted_applyReconciliation, pendingTotal_blockClaimed,
    commandCounts_blockStuckSent, commandCounts_applyReconciliation, hpending,
    startup.submitCounts_eq, startup.preRecover_eq.2]
  rfl

theorem halted_recover :
    startup.recover.2.halted = true ↔
      startup.StopsAnyway ∨ startup.resolvedCount < startup.leftCount .stuckSent ∨
        startup.resolvedCount < startup.leftCount .stranded := by
  show (startup.phase4Steps (recoverBase _ _ _).1 (recoverBase _ _ _).2).killSwitch.halted = true ↔ _
  rw [halted_phase4Steps, halted_recoverBase]
  constructor
  · rintro ((((((h | h) | h) | h) | h) | h) | h)
    · exact .inl (.alreadyHalted h)
    · exact .inl (.base h)
    · exact .inl (.report h)
    · exact .inr (.inl h)
    · exact .inl (.claimed h)
    · exact .inl (.pending (by omega))
    · exact .inr (.inr h)
  · rintro ((h | h | h | h | h) | h | h)
    · exact .inl (.inl (.inl (.inl (.inl (.inl h)))))
    · exact .inl (.inl (.inl (.inl (.inl (.inr h)))))
    · exact .inl (.inl (.inl (.inl (.inr h))))
    · exact .inl (.inl (.inr h))
    · exact .inl (.inr (by omega))
    · exact .inl (.inl (.inl (.inr h)))
    · exact .inr h

theorem flags_of_halted (h : startup.recover.2.halted = true) :
    startup.recover.1.safeStartup = false ∧ startup.recover.1.safeToTrade = false ∧
      startup.recover.1.resumeEligible = false := by
  have hsteps : (startup.phase4Steps
      (recoverBase startup.inputs startup.preRecover.orders startup.killSwitch).1
      (recoverBase startup.inputs startup.preRecover.orders startup.killSwitch).2
      ).killSwitch.halted = true := h
  unfold recover phase4Status
  simp only [hsteps, Bool.not_true, Bool.and_false, and_self]

/-- The submit command of an order is `SENT`, or there is none. -/
def SentOrMissing (order : LedgerOrder) : Prop :=
  submitCommandsOf startup.commands order = [] ∨
    ∃ command ∈ submitCommandsOf startup.commands order, command.state = .sent

instance (order : LedgerOrder) : Decidable (startup.SentOrMissing order) :=
  inferInstanceAs (Decidable (_ ∨ _))

/-- If an order is unresolved and its submit command is `SENT` or missing, the kill switch is
halted and the status allows nothing. -/
def StopsOverUnresolved : Prop :=
  (∃ order ∈ startup.unresolvedOrders, startup.SentOrMissing order) →
    startup.recover.2.halted = true ∧ startup.recover.1.safeStartup = false ∧
      startup.recover.1.safeToTrade = false ∧ startup.recover.1.resumeEligible = false

instance : Decidable startup.StopsOverUnresolved :=
  inferInstanceAs (Decidable (_ → _))

/-- **A start stops over unresolved orders exactly when something else stops it, or those whose
command is `SENT`, or those without a command, outnumber the orders that were resolved.** -/
theorem stopsOverUnresolved_iff :
    startup.StopsOverUnresolved ↔
      ((∃ order ∈ startup.leftOrders, startup.SentOrMissing order) →
        startup.StopsAnyway ∨ startup.resolvedCount < startup.leftCount .stuckSent ∨
          startup.resolvedCount < startup.leftCount .stranded) := by
  unfold StopsOverUnresolved
  rw [startup.unresolvedOrders_eq, ← startup.halted_recover]
  constructor
  · intro h hleft
    exact (h hleft).1
  · intro h hleft
    exact ⟨h hleft, startup.flags_of_halted (h hleft)⟩

/-! ### One leg of a bundle stays unknown -/

def sentLeg (clientOrderId : String) : LedgerOrder where
  row :=
    { clientOrderId := clientOrderId
      intentId := clientOrderId ++ "-intent"
      symbol := "BTC-USDT-SWAP"
      venueOrderId := none
      requestedQty := 1
      state := .submitting
      createdAt := 0
      sourceSystem := "aats"
      orderState := none }
  refs :=
    { bundleId := "bundle-1"
      sleeveId := "sleeve-1"
      allocationId := "allocation-1" }
  productType := .derivatives
  marginMode := .cross

def sentCommand (clientOrderId : String) : Command where
  commandId := clientOrderId ++ "-submit"
  orderId := clientOrderId
  commandType := .submit
  idempotencyKey := submitCommandIdempotencyKey clientOrderId
  state := .sent

/-- The exchange confirms the first leg, and cannot be reached for the second one. -/
def firstLegConfirmed : Exchange where
  getOrder := fun _ clientOrderId =>
    if clientOrderId = "leg-1" then
      .answered { code := "0", data := some [{ state := "live", ordId := "1001" }] }
    else .raised
  writer := .outbox (fun _ => .committed)
  now := 100

/-- A start with both legs in flight, a fresh and clean reconciliation, and a running switch. -/
def twoLegs : Startup where
  inputs :=
    { scope :=
        { productType := .derivatives
          marginMode := .cross
          allowedSymbols := ["BTC-USDT-SWAP"]
          defaultSymbol := "BTC-USDT-SWAP" }
      reconciliationStaleAfter := 60
      now := 100
      reconciliation := some { asOfTs := 90 } }
  orders := [sentLeg "leg-1", sentLeg "leg-2"]
  nodup_clientOrderId := by decide
  commands := [sentCommand "leg-1", sentCommand "leg-2"]
  exchange := some firstLegConfirmed
  killSwitch := KillSwitch.initial "ksgen" 0

theorem unknown_leg_excused : ¬ ∀ startup : Startup, startup.StopsOverUnresolved := by
  intro h
  have hstops : twoLegs.StopsOverUnresolved := h twoLegs
  revert hstops
  decide +kernel

end Startup

end Aats.Recovery
