import Aats.Execution.Obligations
import Mathlib.Tactic.Ring

/-!
# The reservation mirror

`Phase1LedgerMirrorService.sync_obligation` copies every change of an obligation to a reservation
row. It consumes and releases what the row is behind, and sets the state. The row refuses to
have more consumed and released than was reserved, up to `1e-18`; the obligation does not: a fill
may be worth more than the reserve, or come after the rest was released.

So the row follows the obligation until a fill consumes more than the row has left. That sync
raises and leaves the row as it was, and so does every later one, since the obligation never
gives back what it consumed.

## Main definitions
* `Mirror.Fits` — a change consumes no more than the row has left.

## Main results
* `mirror_follows_until_overrun` — the row follows as long as all changes fit, and stays where it
  is from the first one that does not.
-/

namespace Aats.Execution

/-! ### The row -/

/-- `PostgresReservationRepository._EPSILON`. -/
def epsilon18 : ℚ := 1 / 10 ^ 18

/-- A row of `reservations`. -/
structure ReservationRow where
  reservedAmount : ℚ
  consumedAmount : ℚ := 0
  releasedAmount : ℚ := 0
  state : ObligationStatus := .active
  deriving DecidableEq, Repr

inductive ReservationError
  | consumeAmountMustBeNonNegative
  | releaseAmountMustBeNonNegative
  | overConsume (nextConsumed released reserved : ℚ)
  | overRelease (consumed nextReleased reserved : ℚ)
  deriving DecidableEq, Repr

def consumeInSession (row : ReservationRow) (amount : ℚ) :
    Except ReservationError ReservationRow :=
  if amount < 0 then .error .consumeAmountMustBeNonNegative
  else
    let nextConsumed := row.consumedAmount + amount
    if row.reservedAmount + epsilon18 < nextConsumed + row.releasedAmount then
      .error (.overConsume nextConsumed row.releasedAmount row.reservedAmount)
    else
      .ok
        { row with
          consumedAmount := nextConsumed
          state := if 0 < nextConsumed ∧ row.state = .active then .partiallyConsumed
            else row.state }

def releaseInSession (row : ReservationRow) (amount : ℚ) (nextState : ObligationStatus) :
    Except ReservationError ReservationRow :=
  if amount < 0 then .error .releaseAmountMustBeNonNegative
  else
    let nextReleased := row.releasedAmount + amount
    if row.reservedAmount + epsilon18 < row.consumedAmount + nextReleased then
      .error (.overRelease row.consumedAmount nextReleased row.reservedAmount)
    else .ok { row with releasedAmount := nextReleased, state := nextState }

/-! ### Syncing -/

/-- `sync_obligation` on a row. -/
def syncRow (row : ReservationRow) (obligation : OrderObligation) :
    Except ReservationError ReservationRow :=
  let deltaConsumed := max (obligation.consumedAmount - row.consumedAmount) 0
  let deltaReleased := max (obligation.releasedAmount - row.releasedAmount) 0
  -- a raise leaves the session before its commit, so nothing of it is kept
  match if epsilon12 < deltaConsumed then consumeInSession row deltaConsumed else .ok row with
  | .error e => .error e
  | .ok consumed =>
    match if epsilon12 < deltaReleased then
        releaseInSession consumed deltaReleased obligation.status else .ok consumed with
    | .error e => .error e
    | .ok released =>
      -- a release of nothing, for its state
      if released.state ≠ obligation.status then releaseInSession released 0 obligation.status
      else .ok released

/-- `sync_obligation`: the first one creates the row. -/
def syncObligation (row : Option ReservationRow) (obligation : OrderObligation) :
    Except ReservationError ReservationRow :=
  syncRow (row.getD { reservedAmount := obligation.reservedAmount }) obligation

structure Mirror where
  obligation : OrderObligation
  row : Option ReservationRow := none
  raised : List ReservationError := []

inductive ObligationChange
  | fill (fill : FillEvent)
  | finalize (orderState : OrderState)

def ObligationChange.isSynced : ObligationChange → Bool
  | .fill _ => true
  | .finalize orderState => orderState.status.isTerminal

namespace Mirror

/-- The obligation is saved and synced; a sync that raises is rolled back. -/
def sync (mirror : Mirror) (obligation : OrderObligation) : Mirror :=
  match syncObligation mirror.row obligation with
  | .ok row => { mirror with obligation := obligation, row := some row }
  | .error e => { mirror with obligation := obligation, raised := mirror.raised ++ [e] }

/-- A change, synced. A finalization of an order that is not terminal changes nothing. -/
def change (mirror : Mirror) : ObligationChange → Mirror
  | .fill fill => mirror.sync (applyFillToObligation fill mirror.obligation)
  | .finalize orderState =>
    match applyFinalizationToObligation orderState (some mirror.obligation) with
    | none => mirror
    | some obligation => mirror.sync obligation

end Mirror

def mirrorAll (start : OrderObligation) (changes : List ObligationChange) : Mirror :=
  changes.foldl Mirror.change (Mirror.sync { obligation := start } start)

theorem mirrorAll_concat (start : OrderObligation) (changes : List ObligationChange)
    (change : ObligationChange) :
    mirrorAll start (changes ++ [change]) = (mirrorAll start changes).change change := by
  unfold mirrorAll
  rw [List.foldl_append]
  rfl

/-! ### What fits -/

def fillConsumes (fill : FillEvent) (obligation : OrderObligation) : ℚ :=
  if fill.fillId ∈ obligation.consumedFillIds ∨ fill.fillId ∈ obligation.blockedFillIds then 0
  else
    match fillConsumptionAmount fill obligation with
    | .error _ => 0
    | .ok amount => if amount ≤ epsilon12 then 0 else amount

/-- The change consumes no more than the row has left, up to `1e-18`. -/
def Mirror.Fits (mirror : Mirror) : ObligationChange → Prop
  | .fill fill =>
    ∀ row ∈ mirror.row, row.consumedAmount + fillConsumes fill mirror.obligation +
      row.releasedAmount ≤ row.reservedAmount + epsilon18
  | .finalize _ => True

def FitAlong (start : OrderObligation) (changes : List ObligationChange) : Prop :=
  ∀ done change rest, changes = done ++ change :: rest → (mirrorAll start done).Fits change

theorem applyFillToObligation_amounts (fill : FillEvent) (obligation : OrderObligation) :
    (applyFillToObligation fill obligation).reservedAmount = obligation.reservedAmount ∧
    (applyFillToObligation fill obligation).consumedAmount =
      obligation.consumedAmount + fillConsumes fill obligation ∧
    (applyFillToObligation fill obligation).releasedAmount = obligation.releasedAmount ∧
    ((fillConsumes fill obligation = 0 ∧
        (applyFillToObligation fill obligation).status = obligation.status) ∨
      epsilon12 < fillConsumes fill obligation) := by
  unfold applyFillToObligation fillConsumes
  by_cases hconsumed : fill.fillId ∈ obligation.consumedFillIds
  · simp [hconsumed]
  · by_cases hblocked : fill.fillId ∈ obligation.blockedFillIds
    · simp [hconsumed, hblocked]
    · simp only [hconsumed, hblocked, if_false, or_self]
      cases hamount : fillConsumptionAmount fill obligation with
      | error details => simp [OrderObligation.block]
      | ok amount =>
        by_cases hsmall : amount ≤ epsilon12
        · simp [hsmall]
        · simp [hsmall, OrderObligation.consume, not_le.mp hsmall]

theorem applyFinalizationToObligation_amounts {orderState : OrderState}
    {obligation final : OrderObligation}
    (h : applyFinalizationToObligation orderState (some obligation) = some final) :
    final.reservedAmount = obligation.reservedAmount ∧
    final.consumedAmount = obligation.consumedAmount ∧
    (final.releasedAmount = obligation.releasedAmount ∨
      (obligation.releasedAmount < final.releasedAmount ∧
        final.consumedAmount + final.releasedAmount = obligation.reservedAmount)) := by
  unfold applyFinalizationToObligation at h
  split at h
  · cases h
  · simp only [] at h
    split at h
    · obtain rfl := Option.some.inj h
      exact ⟨rfl, rfl, .inl rfl⟩
    · obtain rfl := Option.some.inj h
      refine ⟨rfl, rfl, ?_⟩
      unfold remainingObligationAmount
      -- an overrun obligation has nothing left to release
      rcases le_or_gt (obligation.reservedAmount - obligation.consumedAmount -
        obligation.releasedAmount) 0 with hle | hgt
      · left
        simp [max_eq_right hle]
      · right
        simp only [max_eq_left hgt.le]
        constructor
        · linarith
        · ring

theorem isTerminal_of_finalization {orderState : OrderState} {obligation final : OrderObligation}
    (h : applyFinalizationToObligation orderState (some obligation) = some final) :
    orderState.status.isTerminal = true := by
  unfold applyFinalizationToObligation at h
  by_contra hopen
  rw [if_pos hopen] at h
  cases h

/-! ### One sync -/

theorem epsilon18_pos : 0 < epsilon18 := by norm_num [epsilon18]

/-- The row has what the obligation has; only a release within the tolerance is left out. -/
structure ReservationRow.Matches (row : ReservationRow) (obligation : OrderObligation) : Prop where
  reserved : row.reservedAmount = obligation.reservedAmount
  consumed : row.consumedAmount = obligation.consumedAmount
  released_le : row.releasedAmount ≤ obligation.releasedAmount
  released_near : obligation.releasedAmount - row.releasedAmount ≤ epsilon12
  room : row.consumedAmount + row.releasedAmount ≤ row.reservedAmount + epsilon18
  state : row.state = obligation.status

section Sync

variable {row : ReservationRow} {obligation : OrderObligation}

theorem consumeInSession_ok {amount : ℚ} (h0 : 0 ≤ amount)
    (hroom : row.consumedAmount + amount + row.releasedAmount ≤ row.reservedAmount + epsilon18) :
    ∃ state, consumeInSession row amount =
      .ok { row with consumedAmount := row.consumedAmount + amount, state := state } := by
  unfold consumeInSession
  rw [if_neg (not_lt.mpr h0)]
  simp only [if_neg (not_lt.mpr hroom)]
  exact ⟨_, rfl⟩

theorem releaseInSession_ok {amount : ℚ} (h0 : 0 ≤ amount) (nextState : ObligationStatus)
    (hroom : row.consumedAmount + (row.releasedAmount + amount) ≤
      row.reservedAmount + epsilon18) :
    releaseInSession row amount nextState =
      .ok { row with releasedAmount := row.releasedAmount + amount, state := nextState } := by
  unfold releaseInSession
  rw [if_neg (not_lt.mpr h0)]
  simp only [if_neg (not_lt.mpr hroom)]

theorem consume_behind (hconsumed : row.consumedAmount = obligation.consumedAmount ∨
      epsilon12 < obligation.consumedAmount - row.consumedAmount)
    (hroom : obligation.consumedAmount + row.releasedAmount ≤ row.reservedAmount + epsilon18) :
    ∃ state, (if epsilon12 < max (obligation.consumedAmount - row.consumedAmount) 0 then
        consumeInSession row (max (obligation.consumedAmount - row.consumedAmount) 0)
      else .ok row) =
      .ok { row with consumedAmount := obligation.consumedAmount, state := state } := by
  rcases hconsumed with heq | hlt
  · rw [← heq, sub_self, max_self, if_neg (not_lt.mpr epsilon12_pos.le)]
    exact ⟨row.state, rfl⟩
  · have hpos : 0 ≤ obligation.consumedAmount - row.consumedAmount := (epsilon12_pos.trans hlt).le
    rw [max_eq_left hpos, if_pos hlt]
    have hsum : row.consumedAmount + (obligation.consumedAmount - row.consumedAmount) =
        obligation.consumedAmount := by
      ring
    obtain ⟨state, hok⟩ := consumeInSession_ok hpos (by rw [hsum]; exact hroom)
    rw [hsum] at hok
    exact ⟨state, hok⟩

theorem syncRow_ok (hreserved : row.reservedAmount = obligation.reservedAmount)
    (hconsumed : row.consumedAmount = obligation.consumedAmount ∨
      epsilon12 < obligation.consumedAmount - row.consumedAmount)
    (hroom : obligation.consumedAmount + row.releasedAmount ≤ row.reservedAmount + epsilon18)
    (hle : row.releasedAmount ≤ obligation.releasedAmount)
    (hreleased : obligation.releasedAmount - row.releasedAmount ≤ epsilon12 ∨
      obligation.consumedAmount + obligation.releasedAmount ≤ row.reservedAmount + epsilon18) :
    ∃ next, syncRow row obligation = .ok next ∧ next.Matches obligation := by
  -- whatever state the consumption leaves, the end of the sync sets that of the obligation
  obtain ⟨state, hok⟩ := consume_behind hconsumed hroom
  have hdelta : 0 ≤ obligation.releasedAmount - row.releasedAmount := by linarith
  unfold syncRow
  simp only [hok, max_eq_left hdelta]
  by_cases hbig : epsilon12 < obligation.releasedAmount - row.releasedAmount
  · have hfits := hreleased.resolve_left (not_le.mpr hbig)
    have hsum : row.releasedAmount + (obligation.releasedAmount - row.releasedAmount) =
        obligation.releasedAmount := by
      ring
    rw [if_pos hbig, releaseInSession_ok hdelta]
    · simp only [hsum, ne_eq, not_true_eq_false, if_false]
      exact ⟨_, rfl, hreserved, rfl, le_rfl, by simpa using epsilon12_pos.le, hfits, rfl⟩
    · show obligation.consumedAmount + (row.releasedAmount + _) ≤ _
      rw [hsum]
      exact hfits
  · rw [if_neg hbig]
    simp only []
    by_cases hstate : state = obligation.status
    · rw [if_neg (not_not.mpr hstate)]
      exact ⟨_, rfl, hreserved, rfl, hle, not_lt.mp hbig, hroom, hstate⟩
    · rw [if_pos hstate, releaseInSession_ok le_rfl]
      · refine ⟨_, rfl, hreserved, rfl, ?_, ?_, ?_, rfl⟩
        · rw [add_zero]
          exact hle
        · rw [add_zero]
          exact not_lt.mp hbig
        · rw [add_zero]
          exact hroom
      · rw [add_zero]
        exact hroom

theorem syncRow_over (hbehind : epsilon12 < obligation.consumedAmount - row.consumedAmount)
    (hfull : row.reservedAmount + epsilon18 < obligation.consumedAmount + row.releasedAmount) :
    syncRow row obligation = .error
      (.overConsume obligation.consumedAmount row.releasedAmount row.reservedAmount) := by
  have hpos : 0 ≤ obligation.consumedAmount - row.consumedAmount :=
    (epsilon12_pos.trans hbehind).le
  have hsum : row.consumedAmount + (obligation.consumedAmount - row.consumedAmount) =
      obligation.consumedAmount := by
    ring
  have hconsume : consumeInSession row (obligation.consumedAmount - row.consumedAmount) = .error
      (.overConsume obligation.consumedAmount row.releasedAmount row.reservedAmount) := by
    unfold consumeInSession
    rw [if_neg (not_lt.mpr hpos)]
    simp only [hsum, if_pos hfull]
  unfold syncRow
  simp only [max_eq_left hpos, if_pos hbehind, hconsume]

theorem consumeInSession_amounts {next : ReservationRow} {amount : ℚ}
    (h : consumeInSession row amount = .ok next) :
    next.reservedAmount = row.reservedAmount ∧
      next.consumedAmount = row.consumedAmount + amount ∧
      next.releasedAmount = row.releasedAmount := by
  unfold consumeInSession at h
  extract_lets nextConsumed at h
  split at h
  · cases h
  · split at h
    · cases h
    · obtain rfl := Except.ok.inj h
      exact ⟨rfl, rfl, rfl⟩

theorem releaseInSession_amounts {next : ReservationRow} {amount : ℚ} {state : ObligationStatus}
    (h : releaseInSession row amount state = .ok next) :
    next.reservedAmount = row.reservedAmount ∧ next.consumedAmount = row.consumedAmount ∧
      next.releasedAmount = row.releasedAmount + amount ∧ next.state = state := by
  unfold releaseInSession at h
  extract_lets nextReleased at h
  split at h
  · cases h
  · split at h
    · cases h
    · obtain rfl := Except.ok.inj h
      exact ⟨rfl, rfl, rfl, rfl⟩

/-- What a sync takes of a difference: nothing within the tolerance. -/
def takenDelta (delta : ℚ) : ℚ := if delta ≤ epsilon12 then 0 else delta

theorem syncRow_amounts {next : ReservationRow} (h : syncRow row obligation = .ok next) :
    next.reservedAmount = row.reservedAmount ∧
      next.consumedAmount = row.consumedAmount +
        takenDelta (max (obligation.consumedAmount - row.consumedAmount) 0) ∧
      next.releasedAmount = row.releasedAmount +
        takenDelta (max (obligation.releasedAmount - row.releasedAmount) 0) ∧
      next.state = obligation.status := by
  unfold syncRow at h
  extract_lets deltaConsumed deltaReleased at h
  split at h
  · cases h
  · next consumed hconsumed =>
    have hfirst : consumed.reservedAmount = row.reservedAmount ∧
        consumed.consumedAmount = row.consumedAmount + takenDelta deltaConsumed ∧
        consumed.releasedAmount = row.releasedAmount := by
      unfold takenDelta
      by_cases hsmall : deltaConsumed ≤ epsilon12
      · rw [if_neg (not_lt.mpr hsmall)] at hconsumed
        obtain rfl := Except.ok.inj hconsumed
        simp [hsmall]
      · rw [if_pos (not_le.mp hsmall)] at hconsumed
        simpa [hsmall] using consumeInSession_amounts hconsumed
    split at h
    · cases h
    · next released hreleased =>
      have hsecond : released.reservedAmount = consumed.reservedAmount ∧
          released.consumedAmount = consumed.consumedAmount ∧
          released.releasedAmount = consumed.releasedAmount + takenDelta deltaReleased := by
        unfold takenDelta
        by_cases hsmall : deltaReleased ≤ epsilon12
        · rw [if_neg (not_lt.mpr hsmall)] at hreleased
          obtain rfl := Except.ok.inj hreleased
          simp [hsmall]
        · rw [if_pos (not_le.mp hsmall)] at hreleased
          obtain ⟨hr, hc, hs, -⟩ := releaseInSession_amounts hreleased
          simp [hsmall, hr, hc, hs]
      -- the last part only sets the state
      have hthird : next.reservedAmount = released.reservedAmount ∧
          next.consumedAmount = released.consumedAmount ∧
          next.releasedAmount = released.releasedAmount ∧ next.state = obligation.status := by
        split at h
        · obtain ⟨hr, hc, hs, hstate⟩ := releaseInSession_amounts h
          rw [add_zero] at hs
          exact ⟨hr, hc, hs, hstate⟩
        · next hstate =>
          obtain rfl := Except.ok.inj h
          exact ⟨rfl, rfl, rfl, not_not.mp hstate⟩
      refine ⟨?_, ?_, ?_, hthird.2.2.2⟩
      · rw [hthird.1, hsecond.1, hfirst.1]
      · rw [hthird.2.1, hsecond.2.1, hfirst.2.1]
      · rw [hthird.2.2.1, hsecond.2.2, hfirst.2.2]

theorem max_sub_takenDelta_le (target amount : ℚ) :
    max (target - (amount + takenDelta (max (target - amount) 0))) 0 ≤ epsilon12 := by
  unfold takenDelta
  split
  · next hsmall =>
    rw [add_zero]
    exact hsmall
  · next hbig =>
    have hle := le_max_left (target - amount) 0
    exact max_le (by linarith [epsilon12_pos]) epsilon12_pos.le

theorem syncRow_again {next : ReservationRow} (h : syncRow row obligation = .ok next) :
    syncRow next obligation = .ok next ∧
      max (obligation.consumedAmount - next.consumedAmount) 0 ≤ epsilon12 ∧
      max (obligation.releasedAmount - next.releasedAmount) 0 ≤ epsilon12 := by
  obtain ⟨-, hconsumed, hreleased, hstate⟩ := syncRow_amounts h
  have hfew : max (obligation.consumedAmount - next.consumedAmount) 0 ≤ epsilon12 := by
    rw [hconsumed]
    exact max_sub_takenDelta_le _ _
  have hless : max (obligation.releasedAmount - next.releasedAmount) 0 ≤ epsilon12 := by
    rw [hreleased]
    exact max_sub_takenDelta_le _ _
  refine ⟨?_, hfew, hless⟩
  unfold syncRow
  simp only [if_neg (not_lt.mpr hfew), if_neg (not_lt.mpr hless), hstate, ne_eq, not_true_eq_false,
    if_false]

end Sync

/-! ### Following and stuck -/

/-- The error is the refusal to consume more than was reserved. -/
def ReservationError.IsOverConsume : ReservationError → Prop
  | .overConsume _ _ _ => True
  | _ => False

structure Mirror.Follows (mirror : Mirror) (row : ReservationRow) : Prop where
  row_eq : mirror.row = some row
  raised : mirror.raised = []
  rowMatches : row.Matches mirror.obligation

/-- The obligation consumed more than the row takes; the row does not move any more. -/
structure Mirror.Stuck (mirror : Mirror) (row : ReservationRow) : Prop where
  row_eq : mirror.row = some row
  errors : ∀ error ∈ mirror.raised, error.IsOverConsume
  behind : epsilon12 < mirror.obligation.consumedAmount - row.consumedAmount
  full : row.reservedAmount + epsilon18 < mirror.obligation.consumedAmount + row.releasedAmount

section Changes

variable {mirror : Mirror} {row : ReservationRow}

theorem sync_eq_ok {obligation : OrderObligation} {next : ReservationRow}
    (hrow : mirror.row = some row) (h : syncRow row obligation = .ok next) :
    mirror.sync obligation = { mirror with obligation := obligation, row := some next } := by
  unfold Mirror.sync syncObligation
  rw [hrow, Option.getD_some, h]

theorem sync_eq_error {obligation : OrderObligation} {e : ReservationError}
    (hrow : mirror.row = some row) (h : syncRow row obligation = .error e) :
    mirror.sync obligation =
      { mirror with obligation := obligation, raised := mirror.raised ++ [e] } := by
  unfold Mirror.sync syncObligation
  rw [hrow, Option.getD_some, h]

theorem change_finalize_none {orderState : OrderState}
    (h : applyFinalizationToObligation orderState (some mirror.obligation) = none) :
    mirror.change (.finalize orderState) = mirror := by
  simp only [Mirror.change, h]

theorem change_finalize_some {orderState : OrderState} {final : OrderObligation}
    (h : applyFinalizationToObligation orderState (some mirror.obligation) = some final) :
    mirror.change (.finalize orderState) = mirror.sync final := by
  simp only [Mirror.change, h]

theorem Mirror.Follows.change (h : mirror.Follows row) {change : ObligationChange}
    (hfits : mirror.Fits change) : ∃ next, (mirror.change change).Follows next := by
  have hmatches := h.rowMatches
  cases change with
  | fill fill =>
    obtain ⟨hreserved, hconsumed, hreleased, hamount⟩ :=
      applyFillToObligation_amounts fill mirror.obligation
    have hroom := hfits row h.row_eq
    obtain ⟨next, hsync, hnext⟩ : ∃ next, syncRow row
        (applyFillToObligation fill mirror.obligation) = .ok next ∧
        next.Matches (applyFillToObligation fill mirror.obligation) := by
      apply syncRow_ok
      · rw [hreserved]
        exact hmatches.reserved
      · -- a fill consumes nothing or more than the tolerance, so no consumption is skipped
        rw [hconsumed, hmatches.consumed]
        rcases hamount with ⟨hzero, -⟩ | hbig
        · left
          rw [hzero, add_zero]
        · right
          rw [add_sub_cancel_left]
          exact hbig
      · rw [hconsumed, ← hmatches.consumed]
        exact hroom
      · rw [hreleased]
        exact hmatches.released_le
      · rw [hreleased]
        exact .inl hmatches.released_near
    refine ⟨next, ?_⟩
    show (mirror.sync _).Follows next
    rw [sync_eq_ok h.row_eq hsync]
    exact ⟨rfl, h.raised, hnext⟩
  | finalize orderState =>
    cases hfinal : applyFinalizationToObligation orderState (some mirror.obligation) with
    | none =>
      rw [change_finalize_none hfinal]
      exact ⟨row, h⟩
    | some final =>
      obtain ⟨hreserved, hconsumed, hreleased⟩ := applyFinalizationToObligation_amounts hfinal
      have hle : row.releasedAmount ≤ final.releasedAmount := by
        have hbefore := hmatches.released_le
        rcases hreleased with heq | ⟨hlt, -⟩ <;> linarith
      -- what a finalization releases fits, since the consumption did
      have hnear : final.releasedAmount - row.releasedAmount ≤ epsilon12 ∨
          final.consumedAmount + final.releasedAmount ≤ row.reservedAmount + epsilon18 := by
        rcases hreleased with heq | ⟨-, hsum⟩
        · left
          rw [heq]
          exact hmatches.released_near
        · right
          rw [hsum, hmatches.reserved]
          linarith [epsilon18_pos]
      have hroom : final.consumedAmount + row.releasedAmount ≤ row.reservedAmount + epsilon18 := by
        rw [hconsumed, ← hmatches.consumed]
        exact hmatches.room
      obtain ⟨next, hsync, hnext⟩ := syncRow_ok (hmatches.reserved.trans hreserved.symm)
        (.inl (hmatches.consumed.trans hconsumed.symm)) hroom hle hnear
      refine ⟨next, ?_⟩
      rw [change_finalize_some hfinal, sync_eq_ok h.row_eq hsync]
      exact ⟨rfl, h.raised, hnext⟩

theorem stuck_sync {obligation : OrderObligation} (hrow : mirror.row = some row)
    (herrors : ∀ error ∈ mirror.raised, error.IsOverConsume)
    (hbehind : epsilon12 < obligation.consumedAmount - row.consumedAmount)
    (hfull : row.reservedAmount + epsilon18 < obligation.consumedAmount + row.releasedAmount) :
    (mirror.sync obligation).Stuck row ∧
      (mirror.sync obligation).raised.length = mirror.raised.length + 1 := by
  rw [sync_eq_error hrow (syncRow_over hbehind hfull)]
  refine ⟨⟨hrow, ?_, hbehind, hfull⟩, by simp⟩
  intro error hmem
  rcases List.mem_append.mp hmem with hmem | hmem
  · exact herrors error hmem
  · rw [List.mem_singleton.mp hmem]
    trivial

theorem Mirror.Follows.stuck (h : mirror.Follows row) {change : ObligationChange}
    (hover : ¬ mirror.Fits change) :
    (mirror.change change).Stuck row ∧ (mirror.change change).raised.length = 1 := by
  have hmatches := h.rowMatches
  cases change with
  | finalize orderState => exact absurd trivial hover
  | fill fill =>
    obtain ⟨-, hconsumed, -, hamount⟩ := applyFillToObligation_amounts fill mirror.obligation
    have hfull : row.reservedAmount + epsilon18 < row.consumedAmount +
        fillConsumes fill mirror.obligation + row.releasedAmount := by
      by_contra hle
      apply hover
      intro other hother
      rw [h.row_eq, Option.mem_some_iff] at hother
      rw [← hother]
      exact not_lt.mp hle
    -- the row had room, so the fill does consume something
    have hbig : epsilon12 < fillConsumes fill mirror.obligation := by
      rcases hamount with ⟨hzero, -⟩ | hbig
      · rw [hzero, add_zero] at hfull
        exact absurd hmatches.room (not_le.mpr hfull)
      · exact hbig
    have hbehind : epsilon12 < (applyFillToObligation fill mirror.obligation).consumedAmount -
        row.consumedAmount := by
      rw [hconsumed, hmatches.consumed, add_sub_cancel_left]
      exact hbig
    rw [hmatches.consumed, ← hconsumed] at hfull
    obtain ⟨hstuck, hlength⟩ := stuck_sync h.row_eq (by simp [h.raised]) hbehind hfull
    rw [h.raised] at hlength
    exact ⟨hstuck, hlength⟩

/-- **A stuck row stays stuck** and refuses every sync: no change gives back what was consumed. -/
theorem Mirror.Stuck.change (h : mirror.Stuck row) (change : ObligationChange) :
    (mirror.change change).Stuck row ∧ (mirror.change change).raised.length =
      mirror.raised.length + if change.isSynced then 1 else 0 := by
  have hbehind := h.behind
  have hfull := h.full
  cases change with
  | fill fill =>
    obtain ⟨-, hconsumed, -, hamount⟩ := applyFillToObligation_amounts fill mirror.obligation
    have hmore : 0 ≤ fillConsumes fill mirror.obligation := by
      rcases hamount with ⟨hzero, -⟩ | hbig
      · exact hzero.ge
      · exact (epsilon12_pos.trans hbig).le
    apply stuck_sync h.row_eq h.errors
    · rw [hconsumed]
      linarith
    · rw [hconsumed]
      linarith
  | finalize orderState =>
    cases hfinal : applyFinalizationToObligation orderState (some mirror.obligation) with
    | none =>
      rw [change_finalize_none hfinal]
      have hopen : orderState.status.isTerminal = false := by
        simpa using finalization_eq_none hfinal
      exact ⟨h, by simp [ObligationChange.isSynced, hopen]⟩
    | some final =>
      obtain ⟨-, hconsumed, -⟩ := applyFinalizationToObligation_amounts hfinal
      rw [change_finalize_some hfinal, ObligationChange.isSynced,
        isTerminal_of_finalization hfinal, if_pos rfl]
      apply stuck_sync h.row_eq h.errors
      · rw [hconsumed]
        exact hbehind
      · rw [hconsumed]
        exact hfull

end Changes

/-! ### Whole histories -/

/-- The obligation as `_build_reservation_for_intent` returns it. -/
structure OrderObligation.Opened (obligation : OrderObligation) : Prop where
  consumed : obligation.consumedAmount = 0
  released : obligation.releasedAmount = 0
  consumedFillIds : obligation.consumedFillIds = []
  blockedFillIds : obligation.blockedFillIds = []
  status : obligation.status = .active
  reserved : epsilon12 < obligation.reservedAmount

instance (obligation : OrderObligation) : Decidable obligation.Opened :=
  decidable_of_iff (obligation.consumedAmount = 0 ∧ obligation.releasedAmount = 0 ∧
      obligation.consumedFillIds = [] ∧ obligation.blockedFillIds = [] ∧
      obligation.status = .active ∧ epsilon12 < obligation.reservedAmount)
    ⟨fun ⟨h₁, h₂, h₃, h₄, h₅, h₆⟩ => ⟨h₁, h₂, h₃, h₄, h₅, h₆⟩,
      fun h => ⟨h.1, h.2, h.3, h.4, h.5, h.6⟩⟩

section Histories

variable {start : OrderObligation}

theorem follows_opened (h : start.Opened) : ∃ row, (mirrorAll start []).Follows row := by
  have hpos : 0 ≤ start.reservedAmount := (epsilon12_pos.trans h.reserved).le
  obtain ⟨row, hsync, hmatches⟩ : ∃ row, syncRow { reservedAmount := start.reservedAmount } start =
      .ok row ∧ row.Matches start := by
    apply syncRow_ok
    · rfl
    · left
      exact h.consumed.symm
    · rw [h.consumed]
      simpa using add_nonneg hpos epsilon18_pos.le
    · exact h.released.ge
    · left
      simpa [h.released] using epsilon12_pos.le
  refine ⟨row, ?_⟩
  have hfirst : mirrorAll start [] = { obligation := start, row := some row } := by
    unfold mirrorAll Mirror.sync syncObligation
    simp only [List.foldl_nil, Option.getD_none, hsync]
  rw [hfirst]
  exact ⟨rfl, rfl, hmatches⟩

theorem FitAlong.init {changes : List ObligationChange} {change : ObligationChange}
    (h : FitAlong start (changes ++ [change])) :
    FitAlong start changes ∧ (mirrorAll start changes).Fits change := by
  constructor
  · intro done other rest hsplit
    refine h done other (rest ++ [change]) ?_
    rw [hsplit, List.append_assoc, List.cons_append]
  · exact h changes change [] rfl

theorem FitAlong.concat {changes : List ObligationChange} {change : ObligationChange}
    (h : FitAlong start changes) (hfits : (mirrorAll start changes).Fits change) :
    FitAlong start (changes ++ [change]) := by
  intro done other rest hsplit
  rcases List.eq_nil_or_concat rest with rfl | ⟨init, last, rfl⟩
  · obtain ⟨rfl, hlast⟩ := List.append_inj' hsplit rfl
    obtain rfl := List.singleton_inj.mp hlast
    exact hfits
  · rw [List.concat_eq_append, ← List.cons_append, ← List.append_assoc] at hsplit
    exact h done other init (List.append_inj' hsplit rfl).1

theorem follows_of_fitAlong (hopened : start.Opened) {changes : List ObligationChange}
    (hfits : FitAlong start changes) : ∃ row, (mirrorAll start changes).Follows row := by
  induction changes using List.reverseRecOn with
  | nil => exact follows_opened hopened
  | append_singleton changes change ih =>
    obtain ⟨hbefore, hlast⟩ := hfits.init
    obtain ⟨row, hfollows⟩ := ih hbefore
    rw [mirrorAll_concat]
    exact hfollows.change hlast

theorem exists_overrun {changes : List ObligationChange} (h : ¬ FitAlong start changes) :
    ∃ done change rest, changes = done ++ change :: rest ∧ FitAlong start done ∧
      ¬ (mirrorAll start done).Fits change := by
  induction changes using List.reverseRecOn with
  | nil =>
    refine absurd ?_ h
    intro done other rest hsplit
    simp at hsplit
  | append_singleton changes change ih =>
    by_cases hbefore : FitAlong start changes
    · exact ⟨changes, change, [], rfl, hbefore, fun hfits => h (hbefore.concat hfits)⟩
    · obtain ⟨done, other, rest, hsplit, hdone, hover⟩ := ih hbefore
      refine ⟨done, other, rest ++ [change], ?_, hdone, hover⟩
      rw [hsplit, List.append_assoc, List.cons_append]

theorem stuck_after (hopened : start.Opened) {done : List ObligationChange}
    {change : ObligationChange} (hdone : FitAlong start done)
    (hover : ¬ (mirrorAll start done).Fits change) (rest : List ObligationChange) :
    ∃ row, (mirrorAll start done).row = some row ∧
      (mirrorAll start (done ++ change :: rest)).Stuck row ∧
      (mirrorAll start (done ++ change :: rest)).raised.length =
        1 + rest.countP ObligationChange.isSynced := by
  obtain ⟨row, hfollows⟩ := follows_of_fitAlong hopened hdone
  refine ⟨row, hfollows.row_eq, ?_⟩
  induction rest using List.reverseRecOn with
  | nil =>
    rw [mirrorAll_concat]
    exact hfollows.stuck hover
  | append_singleton rest last ih =>
    obtain ⟨hstuck, hlength⟩ := ih
    rw [← List.cons_append, ← List.append_assoc, mirrorAll_concat]
    obtain ⟨hnext, hone⟩ := hstuck.change last
    refine ⟨hnext, ?_⟩
    rw [hone, hlength, List.countP_append, List.countP_singleton, add_assoc]

/-- **The row follows the obligation until a fill overruns it**: nothing is raised exactly when
all changes fit, and then the row is like the obligation. From the first one that does not fit
on, the row stays as it was and every sync raises. Only consumptions are refused. -/
theorem mirror_follows_until_overrun (start : OrderObligation) (hopened : start.Opened)
    (changes : List ObligationChange) :
    ((mirrorAll start changes).raised = [] ↔ FitAlong start changes) ∧
    (FitAlong start changes → ∃ row, (mirrorAll start changes).row = some row ∧
      row.consumedAmount = (mirrorAll start changes).obligation.consumedAmount ∧
      |row.releasedAmount - (mirrorAll start changes).obligation.releasedAmount| ≤ epsilon12 ∧
      row.state = (mirrorAll start changes).obligation.status) ∧
    (∀ done change rest, changes = done ++ change :: rest → FitAlong start done →
      ¬ (mirrorAll start done).Fits change →
      (mirrorAll start changes).row = (mirrorAll start done).row ∧
      (mirrorAll start changes).raised.length = 1 + rest.countP ObligationChange.isSynced) ∧
    ∀ error ∈ (mirrorAll start changes).raised, error.IsOverConsume := by
  have hstuck : ∀ done change rest, changes = done ++ change :: rest → FitAlong start done →
      ¬ (mirrorAll start done).Fits change → ∃ row, (mirrorAll start done).row = some row ∧
        (mirrorAll start changes).Stuck row ∧ (mirrorAll start changes).raised.length =
          1 + rest.countP ObligationChange.isSynced := by
    rintro done change rest rfl hdone hover
    exact stuck_after hopened hdone hover rest
  refine ⟨⟨?_, ?_⟩, ?_, ?_, ?_⟩
  · intro hnone
    by_contra hnot
    -- the first change that does not fit raises
    obtain ⟨done, change, rest, hsplit, hdone, hover⟩ := exists_overrun hnot
    obtain ⟨row, -, -, hlength⟩ := hstuck done change rest hsplit hdone hover
    rw [hnone, List.length_nil] at hlength
    omega
  · intro hfits
    obtain ⟨row, hfollows⟩ := follows_of_fitAlong hopened hfits
    exact hfollows.raised
  · intro hfits
    obtain ⟨row, hfollows⟩ := follows_of_fitAlong hopened hfits
    have hmatches := hfollows.rowMatches
    refine ⟨row, hfollows.row_eq, hmatches.consumed, ?_, hmatches.state⟩
    rw [abs_sub_comm, abs_of_nonneg (sub_nonneg.mpr hmatches.released_le)]
    exact hmatches.released_near
  · intro done change rest hsplit hdone hover
    obtain ⟨row, hrow, hend, hlength⟩ := hstuck done change rest hsplit hdone hover
    exact ⟨hend.row_eq.trans hrow.symm, hlength⟩
  · by_cases hfits : FitAlong start changes
    · obtain ⟨row, hfollows⟩ := follows_of_fitAlong hopened hfits
      rw [hfollows.raised]
      simp
    · obtain ⟨done, change, rest, hsplit, hdone, hover⟩ := exists_overrun hfits
      obtain ⟨row, -, hend, -⟩ := hstuck done change rest hsplit hdone hover
      exact hend.errors

end Histories

/-- A reserve of 100 USDT for a spot order. -/
def hundredReserved : OrderObligation := { reserveCurrency := "USDT", reservedAmount := 100 }

theorem opened_hundredReserved : hundredReserved.Opened :=
  ⟨rfl, rfl, rfl, rfl, rfl, by decide +kernel⟩

/-- A fill of BTC-USDT without a fee. -/
def plainFill (fillId : String) (qty price : ℚ) : FillEvent :=
  { fillId := fillId, symbol := "BTC-USDT", side := .buy, fillQty := qty, fillPrice := price,
    feeAmount := 0, feeCurrency := some "USDT" }

/-- Half of the reserve is filled and the rest is canceled. -/
def canceledHalfway : List ObligationChange :=
  [.fill (plainFill "f1" (1 / 2) 100),
    .finalize { status := .canceled, requestedQty := 1, remainingQty := 1 / 2 }]

/-- A late fill after the release is refused; the row stays at 50 consumed and 50 released. -/
theorem mirror_follows_until_late_fill :
    FitAlong hundredReserved canceledHalfway ∧
    ¬ FitAlong hundredReserved (canceledHalfway ++ [.fill (plainFill "f2" (1 / 10) 100)]) ∧
    (mirrorAll hundredReserved
      (canceledHalfway ++ [.fill (plainFill "f2" (1 / 10) 100)])).row =
        some { reservedAmount := 100, consumedAmount := 50, releasedAmount := 50,
               state := .canceled } := by
  have hquiet : (mirrorAll hundredReserved canceledHalfway).raised = [] := by decide +kernel
  have hloud : (mirrorAll hundredReserved
      (canceledHalfway ++ [.fill (plainFill "f2" (1 / 10) 100)])).raised ≠ [] := by
    decide +kernel
  have hrow : (mirrorAll hundredReserved canceledHalfway).row = some
      { reservedAmount := 100, consumedAmount := 50, releasedAmount := 50, state := .canceled } := by
    decide +kernel
  obtain ⟨hiff, -⟩ :=
    mirror_follows_until_overrun hundredReserved opened_hundredReserved canceledHalfway
  obtain ⟨hiffLate, -, hstuck, -⟩ :=
    mirror_follows_until_overrun hundredReserved opened_hundredReserved
      (canceledHalfway ++ [.fill (plainFill "f2" (1 / 10) 100)])
  have hfit := hiff.mp hquiet
  have hover := fun hlate => hloud (hiffLate.mpr hlate)
  refine ⟨hfit, hover, ?_⟩
  rw [← hrow]
  exact (hstuck _ _ [] rfl hfit fun hfits => hover (hfit.concat hfits)).1

theorem mirror_refuses_expensive_fill :
    ¬ ∀ (start : OrderObligation) (changes : List ObligationChange), start.Opened →
      (mirrorAll start changes).raised = [] ∧ ∃ row, (mirrorAll start changes).row = some row ∧
        |row.consumedAmount - (mirrorAll start changes).obligation.consumedAmount| ≤ epsilon12 ∧
        |row.releasedAmount - (mirrorAll start changes).obligation.releasedAmount| ≤ epsilon12 ∧
        row.state = (mirrorAll start changes).obligation.status := by
  intro hclaim
  obtain ⟨hraised, -⟩ :=
    hclaim hundredReserved [.fill (plainFill "f1" (11 / 10) 100)] opened_hundredReserved
  have hrefused : (mirrorAll hundredReserved [.fill (plainFill "f1" (11 / 10) 100)]).raised =
      [.overConsume 110 0 100] := by
    decide +kernel
  rw [hrefused] at hraised
  cases hraised

end Aats.Execution
