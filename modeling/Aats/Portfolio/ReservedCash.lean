import Aats.Lib.Runs
import Aats.Portfolio.MirrorPosting

/-!
# Reserved cash and open reservations

Every change of an obligation that the order manager makes is followed by one `sync_obligation`:
a single fill with that fill, a batch once with the last fill of the batch, a finalization and a
repeated submission without a fill. A sync that fails is logged and skipped.

The row moves by the difference to the obligation, the journal by one fill. So `cash_reserved`
keeps up with the open reservations, and the fee accounts with the fees, as long as each sync that
goes through accounts for what was consumed since the last one: it names a fill that has no
settlement yet, whose fee is all that was paid.

## Main definitions
* `LedgerBooks.Sound` — `cash_reserved` holds what the rows have open, and the sources in use are
  those of the rows.

## Main results
* `reserved_cash_agrees` — the ledger agrees with the rows in every run of such syncs.
-/

namespace Aats.Portfolio

open Execution KeyedList

/-! ### Sound books -/

def openAmount (row : ReservationRow) : ℚ :=
  row.reservedAmount - row.consumedAmount - row.releasedAmount

namespace LedgerBooks

def openReservations (books : LedgerBooks) (account : LedgerAccount) : ℚ :=
  (books.reservations.map (fun record =>
    if record.account = account then openAmount record.row else 0)).sum

/-- The balance of an account is what the rows on it have open, and holds, releases and fees are
posted under the ids of rows and of settled fills. -/
structure Sound (books : LedgerBooks) : Prop where
  orderIds : (books.reservations.map (·.orderId)).Nodup
  reservationIds : (books.reservations.map (·.reservationId)).Nodup
  holds : ∀ obligationId amount,
    hasSource books.ledger .reservation (.hold obligationId amount) = true →
      ∃ record ∈ books.reservations, record.reservationId = obligationId
  releases : ∀ obligationId amount,
    hasSource books.ledger .reservationRelease (.release obligationId amount) = true →
      ∃ record ∈ books.reservations, record.reservationId = obligationId ∧
        amount ≤ record.row.releasedAmount
  attributions : ∀ fillId currency,
    hasSource books.ledger .fillFeeAttribution (.fill fillId currency) = true →
      hasSource books.ledger .fillSettlement (.settlement fillId) = true
  reserved : ∀ account : LedgerAccount, account.accountType = .cashReserved →
    balanceByAccount books.ledger account = books.openReservations account

def Keyed (record : ReservationRecord) (obligation : OrderObligation) : Prop :=
  record.orderId = obligation.clientOrderId ∧ record.reservationId = obligation.obligationId ∧
    record.account = obligationAccount obligation .cashReserved

/-- A sync that finds the row of its obligation, or may create it, and can post what it takes. -/
structure Settles (books : LedgerBooks) (obligation : OrderObligation)
    (relatedFill : Option FillEvent) : Prop where
  keyed : ∀ record, books.reservation obligation.clientOrderId = some record →
    Keyed record obligation
  unclaimed : books.reservation obligation.clientOrderId = none →
    ∀ record ∈ books.reservations, record.reservationId ≠ obligation.obligationId
  reserves : epsilon12 < obligation.reservedAmount
  consumption : epsilon12 < deltaConsumed (books.currentReservation obligation) obligation →
    ∃ fill, relatedFill = some fill ∧
      hasSource books.ledger .fillSettlement (.settlement fill.fillId) = false

/-! ### What posting changes -/

section Posting

variable {ledger : Ledger} {obligation : OrderObligation} {fill : FillEvent} {amount : ℚ}
  {account : LedgerAccount}

theorem balanceByAccount_postJournal {journal : LedgerJournal}
    (hnew : hasSource ledger journal.sourceType journal.sourceId = false) :
    balanceByAccount (postJournal ledger journal) account =
      balanceByAccount ledger account + entryBalance journal.entries account := by
  rw [postJournal_of_new hnew]
  exact balanceByAccount_concat _ _ _

theorem balanceByAccount_hold (account : LedgerAccount) (hbig : epsilon12 < obligation.reservedAmount)
    (hnew : hasSource ledger .reservation
      (.hold obligation.obligationId obligation.reservedAmount) = false) :
    balanceByAccount (postReservationHold ledger obligation obligation.reservedAmount) account =
      balanceByAccount ledger account +
        ((if obligationAccount obligation .cashReserved = account then obligation.reservedAmount
          else 0) -
        (if obligationAccount obligation .cashAvailable = account then obligation.reservedAmount
          else 0)) := by
  unfold postReservationHold
  rw [if_neg (not_le.mpr hbig), balanceByAccount_postJournal hnew, entryBalance_twoLegs]

theorem balanceByAccount_release
    (hnew : epsilon12 < amount → hasSource ledger .reservationRelease
      (.release obligation.obligationId obligation.releasedAmount) = false) :
    balanceByAccount (postReservationRelease ledger obligation amount) account =
      balanceByAccount ledger account +
        ((if obligationAccount obligation .cashAvailable = account then takenDelta amount else 0) -
        (if obligationAccount obligation .cashReserved = account then takenDelta amount else 0)) := by
  unfold postReservationRelease takenDelta
  by_cases hsmall : amount ≤ epsilon12
  · simp [hsmall]
  · rw [if_neg hsmall, if_neg hsmall, balanceByAccount_postJournal (hnew (not_le.mp hsmall)),
      entryBalance_twoLegs]

theorem sourceType_feeAttribution (feeDelta : ℚ) :
    (feeAttribution obligation fill feeDelta).sourceType = .fillFeeAttribution := by
  unfold feeAttribution
  split <;> rfl

theorem sourceId_feeAttribution (feeDelta : ℚ) :
    (feeAttribution obligation fill feeDelta).sourceId =
      .fill fill.fillId obligation.reserveCurrency := by
  unfold feeAttribution
  split <;> rfl

theorem entryBalance_feeAttribution (feeDelta : ℚ) :
    entryBalance (feeAttribution obligation fill feeDelta).entries account =
      if obligationAccount obligation (if 0 < feeDelta then .feeExpense else .feeIncome) = account
        then feeDelta
      else if obligationAccount obligation .externalClearing = account then -feeDelta else 0 := by
  unfold feeAttribution
  split
  · next hpos =>
    rw [entryBalance_twoLegs, abs_of_pos hpos]
    by_cases hfee : obligationAccount obligation .feeExpense = account
    · have hother : obligationAccount obligation .externalClearing ≠ account := by
        rw [← hfee]
        simp [obligationAccount]
      simp [hfee, hother]
    · simp [hfee]
      split <;> simp
  · next hneg =>
    rw [entryBalance_twoLegs, abs_of_nonpos (not_lt.mp hneg)]
    by_cases hfee : obligationAccount obligation .feeIncome = account
    · have hother : obligationAccount obligation .externalClearing ≠ account := by
        rw [← hfee]
        simp [obligationAccount]
      simp [hfee, hother]
    · simp [hfee]

def attributedFee (obligation : OrderObligation) (fill : FillEvent) : ℚ :=
  if |reserveFee obligation fill| ≤ epsilon12 then 0 else reserveFee obligation fill

theorem balanceByAccount_consumption (hbig : epsilon12 < amount)
    (hnew : hasSource ledger .fillSettlement (.settlement fill.fillId) = false)
    (hfee : hasSource ledger .fillFeeAttribution
      (.fill fill.fillId obligation.reserveCurrency) = false) :
    balanceByAccount (consumptionPosted ledger obligation amount (some fill)) account =
      balanceByAccount ledger account +
        entryBalance (fillSettlement obligation fill amount).entries account +
        entryBalance (feeAttribution obligation fill (attributedFee obligation fill)).entries
          account := by
  have hsettled : balanceByAccount (postJournal ledger (fillSettlement obligation fill amount))
      account = balanceByAccount ledger account +
        entryBalance (fillSettlement obligation fill amount).entries account :=
    balanceByAccount_postJournal hnew
  simp only [consumptionPosted, if_neg (not_le.mpr hbig), feeAttributed, attributedFee]
  split
  · rw [hsettled, entryBalance_feeAttribution]
    simp
  · -- the settlement is of another type, so the fee is still to be posted
    rw [balanceByAccount_postJournal, hsettled]
    rw [sourceType_feeAttribution, sourceId_feeAttribution, Bool.eq_false_iff]
    intro hposted
    rcases hasSource_postJournal.mp hposted with hposted | ⟨htype, -⟩
    · rw [hfee] at hposted
      cases hposted
    · cases htype

end Posting

end LedgerBooks

/-! ### A sync keeps the books sound -/

namespace LedgerBooks

section Sync

variable {books next : LedgerBooks} {obligation : OrderObligation} {relatedFill : Option FillEvent}
  {sourceType : SourceType} {sourceId : SourceId}

theorem hasSource_hold :
    hasSource (postReservationHold books.ledger obligation obligation.reservedAmount)
      sourceType sourceId = true →
      hasSource books.ledger sourceType sourceId = true ∨
        (sourceType = .reservation ∧
          sourceId = .hold obligation.obligationId obligation.reservedAmount) := by
  unfold postReservationHold
  split
  · exact .inl
  · intro h
    rcases hasSource_postJournal.mp h with h | ⟨rfl, rfl⟩
    · exact .inl h
    · exact .inr ⟨rfl, rfl⟩

theorem hasSource_release {ledger : Ledger} {amount : ℚ}
    (h : hasSource (postReservationRelease ledger obligation amount) sourceType sourceId = true) :
    hasSource ledger sourceType sourceId = true ∨
      (epsilon12 < amount ∧ sourceType = .reservationRelease ∧
        sourceId = .release obligation.obligationId obligation.releasedAmount) := by
  unfold postReservationRelease at h
  split at h
  · exact .inl h
  · next hbig =>
    rcases hasSource_postJournal.mp h with h | ⟨rfl, rfl⟩
    · exact .inl h
    · exact .inr ⟨not_le.mp hbig, rfl, rfl⟩

theorem hasSource_consumption {ledger : Ledger} {amount : ℚ}
    (h : hasSource (consumptionPosted ledger obligation amount relatedFill) sourceType sourceId =
      true) :
    hasSource ledger sourceType sourceId = true ∨
      ∃ fill, relatedFill = some fill ∧
        ((sourceType = .fillSettlement ∧ sourceId = .settlement fill.fillId) ∨
          (sourceType = .fillFeeAttribution ∧
            sourceId = .fill fill.fillId obligation.reserveCurrency)) := by
  cases relatedFill with
  | none => exact .inl h
  | some fill =>
    simp only [consumptionPosted, feeAttributed] at h
    split at h
    · exact .inl h
    · have hsettled : hasSource (postJournal ledger (fillSettlement obligation fill amount))
          sourceType sourceId = true → hasSource ledger sourceType sourceId = true ∨
            ∃ other, some fill = some other ∧
              ((sourceType = .fillSettlement ∧ sourceId = .settlement other.fillId) ∨
                (sourceType = .fillFeeAttribution ∧
                  sourceId = .fill other.fillId obligation.reserveCurrency)) := by
        intro hposted
        rcases hasSource_postJournal.mp hposted with hposted | ⟨rfl, rfl⟩
        · exact .inl hposted
        · exact .inr ⟨fill, rfl, .inl ⟨rfl, rfl⟩⟩
      split at h
      · exact hsettled h
      · rcases hasSource_postJournal.mp h with h | ⟨htype, hid⟩
        · exact hsettled h
        · rw [sourceType_feeAttribution] at htype
          rw [sourceId_feeAttribution] at hid
          exact .inr ⟨fill, rfl, .inr ⟨htype.symm, hid.symm⟩⟩

theorem settled_of_attributed {ledger : Ledger} {amount : ℚ} {fillId currency : String}
    (hbefore : hasSource ledger .fillFeeAttribution (.fill fillId currency) = true →
      hasSource ledger .fillSettlement (.settlement fillId) = true)
    (h : hasSource (consumptionPosted ledger obligation amount relatedFill) .fillFeeAttribution
      (.fill fillId currency) = true) :
    hasSource (consumptionPosted ledger obligation amount relatedFill) .fillSettlement
      (.settlement fillId) = true := by
  cases relatedFill with
  | none => exact hbefore h
  | some fill =>
    simp only [consumptionPosted, feeAttributed] at h ⊢
    split
    · next hsmall =>
      rw [if_pos hsmall] at h
      exact hbefore h
    · next hbig =>
      rw [if_neg hbig] at h
      have hkeep : hasSource ledger .fillSettlement (.settlement fillId) = true ∨
          fill.fillId = fillId → hasSource (postJournal ledger
            (fillSettlement obligation fill amount)) .fillSettlement (.settlement fillId) =
              true := by
        rintro (hold | rfl)
        · exact hasSource_postJournal.mpr (.inl hold)
        · exact hasSource_postJournal.mpr (.inr ⟨rfl, rfl⟩)
      have hsettled : hasSource (postJournal ledger (fillSettlement obligation fill amount))
          .fillFeeAttribution (.fill fillId currency) = true →
          hasSource (postJournal ledger (fillSettlement obligation fill amount))
            .fillSettlement (.settlement fillId) = true := by
        intro hposted
        rcases hasSource_postJournal.mp hposted with hposted | ⟨htype, -⟩
        · exact hkeep (.inl (hbefore hposted))
        · cases htype
      split
      · next hfree =>
        rw [if_pos hfree] at h
        exact hsettled h
      · next hfee =>
        rw [if_neg hfee] at h
        apply hasSource_postJournal.mpr
        left
        rcases hasSource_postJournal.mp h with h | ⟨-, hid⟩
        · exact hsettled h
        · rw [sourceId_feeAttribution, SourceId.fill.injEq] at hid
          exact hkeep (.inr hid.1)

theorem hasSource_hold_of_ne (hreserves : epsilon12 < obligation.reservedAmount)
    (hne : sourceType ≠ .reservation) :
    hasSource (postReservationHold books.ledger obligation obligation.reservedAmount)
      sourceType sourceId = hasSource books.ledger sourceType sourceId := by
  rw [Bool.eq_iff_iff]
  constructor
  · intro hposted
    rcases hasSource_hold hposted with hposted | ⟨htype, -⟩
    · exact hposted
    · exact absurd htype hne
  · intro hposted
    unfold postReservationHold
    rw [if_neg (not_le.mpr hreserves)]
    exact hasSource_postJournal.mpr (.inl hposted)

theorem Sound.hold_new (hsound : books.Sound)
    (hfresh : ∀ other ∈ books.reservations, other.reservationId ≠ obligation.obligationId)
    (amount : ℚ) :
    hasSource books.ledger .reservation (.hold obligation.obligationId amount) = false := by
  rw [Bool.eq_false_iff]
  intro hposted
  obtain ⟨other, hmem, hid⟩ := hsound.holds _ _ hposted
  exact hfresh other hmem hid

theorem nodup_map_concat {α β : Type*} {f : α → β} {items : List α} {item : α}
    (h : (items.map f).Nodup) (hnew : ∀ other ∈ items, f other ≠ f item) :
    ((items ++ [item]).map f).Nodup := by
  rw [List.map_append, List.nodup_append]
  refine ⟨h, List.nodup_singleton _, ?_⟩
  rintro key hkey other hother rfl
  obtain ⟨found, hfound, rfl⟩ := List.mem_map.mp hkey
  rw [List.map_singleton, List.mem_singleton] at hother
  exact hnew found hfound hother

theorem Sound.opened (hsound : books.Sound) (hreserves : epsilon12 < obligation.reservedAmount)
    (hnone : lookup ReservationRecord.orderId books.reservations obligation.clientOrderId = none)
    (hfresh : ∀ other ∈ books.reservations, other.reservationId ≠ obligation.obligationId) :
    Sound { books with
      reservations := books.reservations ++ [newReservation obligation]
      ledger := postReservationHold books.ledger obligation obligation.reservedAmount } where
  orderIds := nodup_map_concat hsound.orderIds (lookup_eq_none.mp hnone)
  reservationIds := nodup_map_concat hsound.reservationIds hfresh
  holds := by
    intro obligationId amount hposted
    rcases hasSource_hold hposted with hposted | ⟨-, hid⟩
    · obtain ⟨other, hmem, hother⟩ := hsound.holds _ _ hposted
      exact ⟨other, List.mem_append_left _ hmem, hother⟩
    · rw [SourceId.hold.injEq] at hid
      exact ⟨newReservation obligation, by simp, hid.1.symm⟩
  releases := by
    intro obligationId amount hposted
    rw [hasSource_hold_of_ne hreserves (by decide)] at hposted
    obtain ⟨other, hmem, hother⟩ := hsound.releases _ _ hposted
    exact ⟨other, List.mem_append_left _ hmem, hother⟩
  attributions := by
    intro fillId currency hposted
    rw [hasSource_hold_of_ne hreserves (by decide)] at hposted ⊢
    exact hsound.attributions _ _ hposted
  reserved := by
    intro account htype
    have havailable : obligationAccount obligation .cashAvailable ≠ account := by
      rintro rfl
      cases htype
    rw [balanceByAccount_hold account hreserves (hsound.hold_new hfresh _),
      hsound.reserved account htype, if_neg havailable]
    simp [openReservations, newReservation, openAmount]

theorem Sound.ensureReservation (hsound : books.Sound)
    (hready : books.Settles obligation relatedFill) {opened : LedgerBooks}
    {record : ReservationRecord}
    (h : books.ensureReservation obligation = (opened, some record)) :
    opened.Sound ∧ record ∈ opened.reservations ∧ Keyed record obligation ∧
      (∀ sourceType sourceId, sourceType ≠ .reservation →
        hasSource opened.ledger sourceType sourceId = hasSource books.ledger sourceType sourceId) ∧
      ∀ account : LedgerAccount, account.accountType ≠ .cashReserved →
        account.accountType ≠ .cashAvailable →
        balanceByAccount opened.ledger account = balanceByAccount books.ledger account := by
  rcases books.ensureReservation_cases obligation with
    ⟨found, hfound, he⟩ | ⟨-, -, he⟩ | ⟨hnone, hfresh, he⟩
  · rw [he] at h
    obtain ⟨rfl, hrecord⟩ := Prod.mk.inj h
    obtain rfl := Option.some.inj hrecord
    exact ⟨hsound, mem_of_lookup hfound, hready.keyed found hfound,
      fun _ _ _ => rfl, fun _ _ _ => rfl⟩
  · rw [he] at h
    cases h
  · rw [he] at h
    obtain ⟨rfl, hrecord⟩ := Prod.mk.inj h
    obtain rfl := Option.some.inj hrecord
    refine ⟨hsound.opened hready.reserves hnone hfresh, by simp, ⟨rfl, rfl, rfl⟩,
      fun _ _ hne => hasSource_hold_of_ne hready.reserves hne, ?_⟩
    intro account hreserved havailable
    rw [balanceByAccount_hold account hready.reserves (hsound.hold_new hfresh _), if_neg, if_neg,
      sub_zero, add_zero]
    · rintro rfl
      exact havailable rfl
    · rintro rfl
      exact hreserved rfl

theorem Settles.inversion (hready : books.Settles obligation relatedFill)
    (h : books.syncObligation obligation relatedFill = .ok next) :
    ∃ opened row,
      books.ensureReservation obligation = (opened, some (books.currentReservation obligation)) ∧
      syncRow (books.currentReservation obligation).row obligation = .ok row ∧
      next.reservations = replace ReservationRecord.orderId opened.reservations
        { books.currentReservation obligation with row := row } ∧
      next.ledger = postReservationRelease
        (consumptionPosted opened.ledger obligation
          (deltaConsumed (books.currentReservation obligation) obligation) relatedFill)
        obligation (deltaReleased (books.currentReservation obligation) obligation) := by
  rcases syncObligation_cases h with ⟨hskipped, -⟩ | ⟨opened, record, row, hopened, hrow, rfl⟩
  · rcases books.ensureReservation_cases obligation with
      ⟨record, -, he⟩ | ⟨hnone, ⟨other, hmem, hid⟩, -⟩ | ⟨-, -, he⟩
    · rw [he] at hskipped
      cases hskipped
    · exact absurd hid (hready.unclaimed hnone other hmem)
    · rw [he] at hskipped
      exact absurd (Prod.mk.inj hskipped).2 (by simp)
  · obtain ⟨hcurrent, -⟩ := ensureReservation_some hopened
    subst hcurrent
    exact ⟨opened, row, hopened, hrow, rfl, rfl⟩

theorem Sound.release_new (hsound : books.Sound) {record : ReservationRecord}
    (hmem : record ∈ books.reservations) (hkeyed : Keyed record obligation) {amount : ℚ}
    (hbig : epsilon12 < deltaReleased record obligation) :
    hasSource (consumptionPosted books.ledger obligation amount relatedFill) .reservationRelease
      (.release obligation.obligationId obligation.releasedAmount) = false := by
  rw [Bool.eq_false_iff]
  intro hposted
  rcases hasSource_consumption hposted with hposted | ⟨fill, -, ⟨htype, -⟩ | ⟨htype, -⟩⟩
  · obtain ⟨other, hother, hid, hle⟩ := hsound.releases _ _ hposted
    have hsame : other = record :=
      List.inj_on_of_nodup_map hsound.reservationIds hother hmem (hid.trans hkeyed.2.1.symm)
    subst hsame
    have hzero : deltaReleased other obligation = 0 := max_eq_right (by linarith)
    rw [hzero] at hbig
    exact absurd epsilon12_pos.le (not_le.mpr hbig)
  · cases htype
  · cases htype

theorem Sound.fee_new (hsound : books.Sound) {fillId currency : String}
    (hnew : hasSource books.ledger .fillSettlement (.settlement fillId) = false) :
    hasSource books.ledger .fillFeeAttribution (.fill fillId currency) = false := by
  rw [Bool.eq_false_iff]
  intro hposted
  rw [hsound.attributions _ _ hposted] at hnew
  cases hnew

theorem takenDelta_nonneg {delta : ℚ} (h : 0 ≤ delta) : 0 ≤ takenDelta delta := by
  unfold takenDelta
  split
  · exact le_rfl
  · exact h

theorem balanceByAccount_consumption_reserved {ledger : Ledger} {amount : ℚ}
    {account : LedgerAccount} (htype : account.accountType = .cashReserved)
    (hnew : epsilon12 < amount → ∃ fill, relatedFill = some fill ∧
      hasSource ledger .fillSettlement (.settlement fill.fillId) = false ∧
      hasSource ledger .fillFeeAttribution (.fill fill.fillId obligation.reserveCurrency) =
        false) :
    balanceByAccount (consumptionPosted ledger obligation amount relatedFill) account =
      balanceByAccount ledger account -
        (if obligationAccount obligation .cashReserved = account then takenDelta amount else 0) := by
  have hother : ∀ accountType, accountType ≠ .cashReserved →
      obligationAccount obligation accountType ≠ account := by
    rintro accountType hne rfl
    exact hne htype
  unfold takenDelta
  by_cases hsmall : amount ≤ epsilon12
  · have hsame : consumptionPosted ledger obligation amount relatedFill = ledger := by
      cases relatedFill with
      | none => rfl
      | some fill => exact if_pos hsmall
    rw [hsame, if_pos hsmall]
    simp
  · obtain ⟨fill, rfl, hsettlement, hfee⟩ := hnew (not_le.mp hsmall)
    have hexternal : obligationAccount obligation .externalClearing ≠ account :=
      hother _ (by decide)
    have hfees : obligationAccount obligation
        (if 0 < attributedFee obligation fill then .feeExpense else .feeIncome) ≠ account :=
      hother _ (by split <;> decide)
    rw [balanceByAccount_consumption (not_le.mp hsmall) hsettlement hfee, fillSettlement,
      entryBalance_twoLegs, entryBalance_feeAttribution, if_neg hsmall, if_neg hexternal,
      if_neg hfees, if_neg hexternal]
    ring

theorem Sound.kept_by_sync (hsound : books.Sound) {record : ReservationRecord} {row : ReservationRow}
    (hmem : record ∈ books.reservations) (hrow : syncRow record.row obligation = .ok row)
    (hreservations : next.reservations =
      replace ReservationRecord.orderId books.reservations { record with row := row })
    {other : ReservationRecord} (hother : other ∈ books.reservations) :
    ∃ kept ∈ next.reservations, kept.reservationId = other.reservationId ∧
      other.row.releasedAmount ≤ kept.row.releasedAmount := by
  obtain ⟨-, -, hreleased, -⟩ := syncRow_amounts hrow
  rw [hreservations]
  by_cases hid : other.orderId = record.orderId
  · obtain rfl := List.inj_on_of_nodup_map hsound.orderIds hother hmem hid
    refine ⟨_, List.mem_map.mpr ⟨other, hother, if_pos rfl⟩, rfl, ?_⟩
    rw [hreleased]
    exact le_add_of_nonneg_right (takenDelta_nonneg (le_max_right _ _))
  · exact ⟨other, List.mem_map.mpr ⟨other, hother, if_neg hid⟩, rfl, le_rfl⟩

theorem releasedAmount_synced {record : ReservationRecord} {row : ReservationRow}
    (hrow : syncRow record.row obligation = .ok row)
    (hbig : epsilon12 < deltaReleased record obligation) :
    obligation.releasedAmount ≤ row.releasedAmount := by
  obtain ⟨-, -, hreleased, -⟩ := syncRow_amounts hrow
  have htaken : takenDelta (max (obligation.releasedAmount - record.row.releasedAmount) 0) =
      max (obligation.releasedAmount - record.row.releasedAmount) 0 := if_neg (not_le.mpr hbig)
  rw [hreleased, htaken]
  linarith [le_max_left (obligation.releasedAmount - record.row.releasedAmount) 0]

theorem Sound.openReservations_synced (hsound : books.Sound) {record : ReservationRecord}
    {row : ReservationRow} (hmem : record ∈ books.reservations)
    (hrow : syncRow record.row obligation = .ok row)
    (hreservations : next.reservations =
      replace ReservationRecord.orderId books.reservations { record with row := row })
    (account : LedgerAccount) :
    next.openReservations account = books.openReservations account -
      (if record.account = account then
        takenDelta (deltaConsumed record obligation) + takenDelta (deltaReleased record obligation)
      else 0) := by
  obtain ⟨hsame, hconsumed, hreleased, -⟩ := syncRow_amounts hrow
  have hlookup : lookup ReservationRecord.orderId books.reservations record.orderId = some record :=
    lookup_of_mem hsound.orderIds hmem
  have hsum : next.openReservations account = books.openReservations account +
      ((if record.account = account then openAmount row else 0) -
        (if record.account = account then openAmount record.row else 0)) := by
    unfold openReservations
    rw [hreservations]
    exact sum_replace hsound.orderIds hlookup
  rw [hsum]
  simp only [openAmount, hsame, hconsumed, hreleased, deltaConsumed, deltaReleased]
  split <;> ring

theorem Sound.sync (hsound : books.Sound) (hready : books.Settles obligation relatedFill)
    (h : books.syncObligation obligation relatedFill = .ok next) : next.Sound := by
  obtain ⟨opened, row, hopened, hrow, hreservations, hledger⟩ := hready.inversion h
  obtain ⟨hsound', hmem, hkeyed, hsources, -⟩ := hsound.ensureReservation hready hopened
  have hconsumption := hready.consumption
  generalize books.currentReservation obligation = record at *
  refine ⟨?_, ?_, ?_, ?_, ?_, ?_⟩
  · rw [hreservations, keys_replace]
    exact hsound'.orderIds
  · rw [hreservations, map_replace]
    · exact hsound'.reservationIds
    · intro other hother hid
      rw [List.inj_on_of_nodup_map hsound'.orderIds hother hmem hid]
  · intro obligationId amount hposted
    rw [hledger] at hposted
    rcases hasSource_release hposted with hposted | ⟨-, htype, -⟩
    · rcases hasSource_consumption hposted with hposted | ⟨fill, -, ⟨htype, -⟩ | ⟨htype, -⟩⟩
      · obtain ⟨other, hother, rfl⟩ := hsound'.holds _ _ hposted
        obtain ⟨kept, hmem', hid, -⟩ := hsound'.kept_by_sync hmem hrow hreservations hother
        exact ⟨kept, hmem', hid⟩
      · cases htype
      · cases htype
    · cases htype
  · intro obligationId amount hposted
    rw [hledger] at hposted
    rcases hasSource_release hposted with hposted | ⟨hbig, -, hid⟩
    · rcases hasSource_consumption hposted with hposted | ⟨fill, -, ⟨htype, -⟩ | ⟨htype, -⟩⟩
      · obtain ⟨other, hother, rfl, hle⟩ := hsound'.releases _ _ hposted
        obtain ⟨kept, hmem', hid, hmore⟩ := hsound'.kept_by_sync hmem hrow hreservations hother
        exact ⟨kept, hmem', hid, hle.trans hmore⟩
      · cases htype
      · cases htype
    · -- the row has just released up to the amount
      obtain ⟨rfl, rfl⟩ := SourceId.release.inj hid
      refine ⟨{ record with row := row }, ?_, hkeyed.2.1, releasedAmount_synced hrow hbig⟩
      rw [hreservations]
      exact List.mem_map.mpr ⟨record, hmem, if_pos rfl⟩
  · intro fillId currency hposted
    rw [hledger] at hposted ⊢
    rcases hasSource_release hposted with hposted | ⟨-, htype, -⟩
    · exact hasSource_release_of (settled_of_attributed (hsound'.attributions _ _) hposted)
    · cases htype
  · intro account htype
    -- nothing of a fill that is consumed now has been posted before
    have hnewFill : epsilon12 < deltaConsumed record obligation → ∃ fill, relatedFill = some fill ∧
        hasSource opened.ledger .fillSettlement (.settlement fill.fillId) = false ∧
        hasSource opened.ledger .fillFeeAttribution
          (.fill fill.fillId obligation.reserveCurrency) = false := by
      intro hbig
      obtain ⟨fill, hfill, hnew⟩ := hconsumption hbig
      rw [← hsources _ _ (by decide)] at hnew
      exact ⟨fill, hfill, hnew, hsound'.fee_new hnew⟩
    have havailable : obligationAccount obligation .cashAvailable ≠ account := by
      rintro rfl
      cases htype
    rw [hledger, balanceByAccount_release (hsound'.release_new hmem hkeyed),
      balanceByAccount_consumption_reserved htype hnewFill, hsound'.reserved account htype,
      hsound'.openReservations_synced hmem hrow hreservations, if_neg havailable, hkeyed.2.2]
    split <;> ring

/-! ### The rows and the fees after a sync -/

theorem Sound.sync_reservation (hsound : books.Sound)
    (hready : books.Settles obligation relatedFill)
    (h : books.syncObligation obligation relatedFill = .ok next) :
    (∃ record, next.reservation obligation.clientOrderId = some record ∧
      Keyed record obligation ∧
      record.row.consumedAmount = (books.currentReservation obligation).row.consumedAmount +
        takenDelta (deltaConsumed (books.currentReservation obligation) obligation)) ∧
    (∀ orderId, orderId ≠ obligation.clientOrderId →
      next.reservation orderId = books.reservation orderId) ∧
    ∀ record ∈ next.reservations, Keyed record obligation ∨ record ∈ books.reservations := by
  obtain ⟨opened, row, hopened, hrow, hreservations, -⟩ := hready.inversion h
  obtain ⟨hsound', hmem, hkeyed, -, -⟩ := hsound.ensureReservation hready hopened
  obtain ⟨-, hconsumed, -, -⟩ := syncRow_amounts hrow
  obtain ⟨-, -, -, -, -, hrows⟩ := ensureReservation_some hopened
  have hlookup := lookup_synced hopened row
  rw [← hreservations] at hlookup
  generalize books.currentReservation obligation = record at *
  refine ⟨⟨{ record with row := row }, ?_, hkeyed, hconsumed⟩, ?_, ?_⟩
  · exact (hlookup obligation.clientOrderId).trans (if_pos rfl)
  · intro orderId hne
    exact (hlookup orderId).trans (if_neg hne)
  · intro other hother
    rw [hreservations] at hother
    rcases mem_replace hother with rfl | ⟨hother, -⟩
    · exact .inl hkeyed
    · rcases hrows other hother with rfl | hold
      · exact .inl ⟨rfl, rfl, rfl⟩
      · exact .inr hold

/-- `fee_expense` minus `fee_income` beside an account: debits count up, so the two balances are
added. -/
def feeBalance (ledger : Ledger) (account : LedgerAccount) : ℚ :=
  balanceByAccount ledger { account with accountType := .feeExpense } +
    balanceByAccount ledger { account with accountType := .feeIncome }

theorem obligationAccount_eq_iff {accountType : AccountType} {account : LedgerAccount}
    (htype : account.accountType = .cashReserved) :
    obligationAccount obligation accountType = { account with accountType := accountType } ↔
      obligationAccount obligation .cashReserved = account := by
  cases account
  simp only [obligationAccount, LedgerAccount.mk.injEq, true_and] at *
  rw [htype]
  simp

theorem Sound.sync_feeBalance (hsound : books.Sound)
    (hready : books.Settles obligation relatedFill)
    (h : books.syncObligation obligation relatedFill = .ok next) {account : LedgerAccount}
    (htype : account.accountType = .cashReserved) :
    (deltaConsumed (books.currentReservation obligation) obligation ≤ epsilon12 ∧
      feeBalance next.ledger account = feeBalance books.ledger account) ∨
    ∃ fill, relatedFill = some fill ∧
      epsilon12 < deltaConsumed (books.currentReservation obligation) obligation ∧
      feeBalance next.ledger account = feeBalance books.ledger account +
        if obligationAccount obligation .cashReserved = account then attributedFee obligation fill
        else 0 := by
  obtain ⟨opened, row, hopened, -, -, hledger⟩ := hready.inversion h
  obtain ⟨hsound', hmem, hkeyed, hsources, hbalances⟩ :=
    hsound.ensureReservation hready hopened
  have hconsumption := hready.consumption
  generalize books.currentReservation obligation = record at *
  -- neither the hold nor the release touches the fees
  have hcash : ∀ accountType, accountType ≠ .cashReserved → accountType ≠ .cashAvailable →
      balanceByAccount next.ledger { account with accountType := accountType } =
        balanceByAccount (consumptionPosted opened.ledger obligation
          (deltaConsumed record obligation) relatedFill)
          { account with accountType := accountType } := by
    intro accountType hreserved havailable
    rw [hledger, balanceByAccount_release (hsound'.release_new hmem hkeyed), if_neg, if_neg]
    · ring
    · intro heq
      exact hreserved (congrArg LedgerAccount.accountType heq).symm
    · intro heq
      exact havailable (congrArg LedgerAccount.accountType heq).symm
  have hfees : feeBalance opened.ledger account = feeBalance books.ledger account := by
    unfold feeBalance
    rw [hbalances _ (by simp) (by simp), hbalances _ (by simp) (by simp)]
  have hnext : feeBalance next.ledger account = feeBalance (consumptionPosted opened.ledger
      obligation (deltaConsumed record obligation) relatedFill) account := by
    unfold feeBalance
    rw [hcash _ (by decide) (by decide), hcash _ (by decide) (by decide)]
  rcases le_or_gt (deltaConsumed record obligation) epsilon12 with hsmall | hbig
  · left
    refine ⟨hsmall, ?_⟩
    rw [hnext, ← hfees]
    cases relatedFill with
    | none => rfl
    | some fill =>
      simp only [consumptionPosted]
      rw [if_pos hsmall]
  · right
    obtain ⟨fill, rfl, hnew⟩ := hconsumption hbig
    refine ⟨fill, rfl, hbig, ?_⟩
    rw [← hsources _ _ (by decide)] at hnew
    rw [hnext, ← hfees]
    unfold feeBalance
    rw [balanceByAccount_consumption hbig hnew (hsound'.fee_new hnew),
      balanceByAccount_consumption hbig hnew (hsound'.fee_new hnew), fillSettlement,
      entryBalance_twoLegs, entryBalance_twoLegs, entryBalance_feeAttribution,
      entryBalance_feeAttribution]
    have hother : ∀ accountType feeType, accountType ≠ feeType →
        obligationAccount obligation accountType ≠ { account with accountType := feeType } := by
      intro accountType feeType hne heq
      exact hne (congrArg LedgerAccount.accountType heq)
    simp only [if_neg (hother .externalClearing .feeExpense (by decide)),
      if_neg (hother .externalClearing .feeIncome (by decide)),
      if_neg (hother .cashReserved .feeExpense (by decide)),
      if_neg (hother .cashReserved .feeIncome (by decide))]
    -- the fee goes to one of the two accounts, by its sign
    by_cases hpos : 0 < attributedFee obligation fill
    · simp only [if_pos hpos, obligationAccount_eq_iff htype,
        if_neg (hother .feeExpense .feeIncome (by decide))]
      ring
    · simp only [if_neg hpos, obligationAccount_eq_iff htype,
        if_neg (hother .feeIncome .feeExpense (by decide))]
      ring

end Sync

end LedgerBooks

/-! ### The order manager -/

inductive OrderChange
  | fill (fill : FillEvent)
  | batch (fills : List FillEvent) (orderState : OrderState)
  | finalize (orderState : OrderState)

namespace OrderChange

def fills : OrderChange → List FillEvent
  | .fill event => [event]
  | .batch fills _ => fills
  | .finalize _ => []

/-- The `related_fill` of the sync: the last one of a batch. -/
def relatedFill : OrderChange → Option FillEvent
  | .fill event => some event
  | .batch fills _ => fills.getLast?
  | .finalize _ => none

/-- The obligation that is saved and synced: that of `_persist_fill`, of
`_persist_order_state_with_fills_atomic` or of `_finalize_obligation`. -/
def mirroredObligation (obligation : OrderObligation) : OrderChange → Option OrderObligation
  | .fill event => some (applyFillToObligation event obligation)
  | .batch fills orderState =>
    let preview := previewChainedFillObligationsAndFinalize (some obligation) fills orderState
    preview.2.or preview.1.getLast?.join
  | .finalize orderState => applyFinalizationToObligation orderState (some obligation)

end OrderChange

/-- The fills that consume something of the obligation, one after the other. -/
def newlyConsumed : OrderObligation → List FillEvent → List FillEvent
  | _, [] => []
  | obligation, fill :: fills =>
    (if fillConsumes fill obligation = 0 then [] else [fill]) ++
      newlyConsumed (applyFillToObligation fill obligation) fills

/-- An obligation with the fills it consumed: since the last sync that went through, and before. -/
structure MirroredOrder where
  obligation : OrderObligation
  pending : List FillEvent := []
  mirrored : List FillEvent := []

/-- The key of `order_obligations`. -/
def MirroredOrder.clientOrderId (order : MirroredOrder) : String := order.obligation.clientOrderId

/-- The obligations of the order manager and the books that mirror them. -/
structure MirroredOrders where
  orders : List MirroredOrder := []
  books : LedgerBooks := {}

/-- One call of `_shadow_sync_obligation` for an order, and whether its session works. -/
structure SyncCall where
  order : MirroredOrder
  relatedFill : Option FillEvent
  works : Bool

/-- What the order manager does: a submission, or a change of the order of an id. -/
inductive ManagerLabel
  | reserve (obligation : OrderObligation) (works : Bool)
  | change (clientOrderId : String) (change : OrderChange) (works : Bool)

namespace MirroredOrders

def order (state : MirroredOrders) (clientOrderId : String) : Option MirroredOrder :=
  lookup MirroredOrder.clientOrderId state.orders clientOrderId

/-- The sync that a label calls for. A submission of an id that is known returns its obligation; a
new one is given an id that no other obligation has. -/
def call (state : MirroredOrders) : ManagerLabel → Option SyncCall
  | .reserve obligation works =>
    match state.order obligation.clientOrderId with
    | some order => some { order, relatedFill := none, works }
    | none =>
      if obligation.Opened ∧ state.orders.all (·.obligation.obligationId ≠ obligation.obligationId)
      then some { order := { obligation }, relatedFill := none, works }
      else none
  | .change clientOrderId change works =>
    match state.order clientOrderId with
    | none => none
    | some order =>
      match change.mirroredObligation order.obligation with
      | none => none
      | some obligation =>
        some
          { order :=
              { order with
                obligation := obligation
                pending := order.pending ++ newlyConsumed order.obligation change.fills }
            relatedFill := change.relatedFill
            works }

/-- The obligation is saved and synced; a sync that fails is skipped. -/
def sync (state : MirroredOrders) (call : SyncCall) : MirroredOrders :=
  match call.works, state.books.syncObligation call.order.obligation call.relatedFill with
  | true, .ok books =>
    { orders := upsert MirroredOrder.clientOrderId state.orders
        { call.order with
          pending := []
          mirrored := call.order.mirrored ++ call.order.pending }
      books := books }
  | _, _ =>
    { state with orders := upsert MirroredOrder.clientOrderId state.orders call.order }

def step (state : MirroredOrders) (label : ManagerLabel) : Option MirroredOrders :=
  (state.call label).map state.sync

/-- The fees that the reserves on an account paid, of the fills that are mirrored. -/
def mirroredFees (state : MirroredOrders) (account : LedgerAccount) : ℚ :=
  (state.orders.map (fun order =>
    if obligationAccount order.obligation .cashReserved = account then
      (order.mirrored.map (reserveFee order.obligation)).sum
    else 0)).sum

def mirroredCount (state : MirroredOrders) : ℚ :=
  (state.orders.map (fun order => (order.mirrored.length : ℚ))).sum

/-- The balances of the ledger are those of the rows and of the fills, within the tolerance for
each journal and each fill. -/
def Agrees (state : MirroredOrders) : Prop :=
  ∀ account : LedgerAccount, account.accountType = .cashReserved →
    |balanceByAccount state.books.ledger account - state.books.openReservations account| ≤
        epsilon12 * state.books.ledger.length ∧
      |LedgerBooks.feeBalance state.books.ledger account - state.mirroredFees account| ≤
        epsilon12 * state.mirroredCount

end MirroredOrders

/-- The sync accounts for what was consumed since the last one that went through: nothing, or there
is a fill that has no settlement yet and whose fee is that of all these fills. -/
def AccountsForFills (state : MirroredOrders) (label : ManagerLabel) : Prop :=
  ∀ call ∈ state.call label, call.works = true →
    (state.books.syncObligation call.order.obligation call.relatedFill).toOption.isSome →
    call.order.pending = [] ∨
      ∃ fill ∈ call.relatedFill,
        hasSource state.books.ledger .fillSettlement (.settlement fill.fillId) = false ∧
        reserveFee call.order.obligation fill =
          (call.order.pending.map (reserveFee call.order.obligation)).sum

/-! ### What a change leaves of an obligation -/

structure SameReserve (old new : OrderObligation) : Prop where
  clientOrderId : new.clientOrderId = old.clientOrderId
  obligationId : new.obligationId = old.obligationId
  reserveCurrency : new.reserveCurrency = old.reserveCurrency
  productType : new.productType = old.productType
  marginMode : new.marginMode = old.marginMode
  reservedAmount : new.reservedAmount = old.reservedAmount

section Changes

variable {old new obligation : OrderObligation}

theorem SameReserve.refl (obligation : OrderObligation) : SameReserve obligation obligation :=
  ⟨rfl, rfl, rfl, rfl, rfl, rfl⟩

theorem SameReserve.trans {third : OrderObligation} (h : SameReserve old new)
    (h' : SameReserve new third) : SameReserve old third :=
  ⟨h'.1.trans h.1, h'.2.trans h.2, h'.3.trans h.3, h'.4.trans h.4, h'.5.trans h.5, h'.6.trans h.6⟩

theorem SameReserve.account (h : SameReserve old new) (accountType : AccountType) :
    obligationAccount new accountType = obligationAccount old accountType := by
  unfold obligationAccount
  rw [h.reserveCurrency, h.productType, h.marginMode]

theorem SameReserve.reserveFee (h : SameReserve old new) : reserveFee new = reserveFee old := by
  funext fill
  unfold Portfolio.reserveFee
  rw [h.reserveCurrency, h.productType]

theorem SameReserve.keyed (h : SameReserve old new) {record : ReservationRecord}
    (hkeyed : LedgerBooks.Keyed record old) : LedgerBooks.Keyed record new :=
  ⟨hkeyed.1.trans h.clientOrderId.symm, hkeyed.2.1.trans h.obligationId.symm,
    hkeyed.2.2.trans (h.account _).symm⟩

theorem sameReserve_applyFill (fill : FillEvent) :
    SameReserve obligation (applyFillToObligation fill obligation) := by
  rcases applyFillToObligation_cases fill obligation with
    he | ⟨details, -, he⟩ | ⟨amount, -, -, -, -, he⟩
  · rw [he]
    exact SameReserve.refl _
  · rw [he]
    exact ⟨rfl, rfl, rfl, rfl, rfl, rfl⟩
  · rw [he]
    exact ⟨rfl, rfl, rfl, rfl, rfl, rfl⟩

theorem sameReserve_finalization {orderState : OrderState}
    (h : applyFinalizationToObligation orderState (some obligation) = some new) :
    SameReserve obligation new := by
  unfold applyFinalizationToObligation at h
  split at h
  · cases h
  · simp only [] at h
    split at h
    · obtain rfl := Option.some.inj h
      exact SameReserve.refl _
    · obtain rfl := Option.some.inj h
      exact ⟨rfl, rfl, rfl, rfl, rfl, rfl⟩

theorem fillConsumes_cases (fill : FillEvent) (obligation : OrderObligation) :
    fillConsumes fill obligation = 0 ∨ epsilon12 < fillConsumes fill obligation := by
  obtain ⟨-, -, -, hamount⟩ := applyFillToObligation_amounts fill obligation
  rcases hamount with ⟨hzero, -⟩ | hbig
  · exact .inl hzero
  · exact .inr hbig

/-- What was consumed between two obligations, and by which fills: more than the tolerance if by
any, and nothing if by none. -/
def ConsumedBy (old new : OrderObligation) (fills : List FillEvent) : Prop :=
  (fills = [] ∧ new.consumedAmount = old.consumedAmount) ∨
    (fills ≠ [] ∧ epsilon12 < new.consumedAmount - old.consumedAmount)

theorem chainEnd_spec (fills : List FillEvent) (obligation : OrderObligation) :
    ∃ last, chainEnd (some obligation) fills = some last ∧ SameReserve obligation last ∧
      ConsumedBy obligation last (newlyConsumed obligation fills) := by
  induction fills generalizing obligation with
  | nil => exact ⟨obligation, rfl, SameReserve.refl _, .inl ⟨rfl, rfl⟩⟩
  | cons fill fills ih =>
    obtain ⟨last, hlast, hsame, hconsumed⟩ := ih (applyFillToObligation fill obligation)
    refine ⟨last, hlast, (sameReserve_applyFill fill).trans hsame, ?_⟩
    obtain ⟨-, hfirst, -, -⟩ := applyFillToObligation_amounts fill obligation
    unfold newlyConsumed
    unfold ConsumedBy at hconsumed ⊢
    rw [hfirst] at hconsumed
    rcases fillConsumes_cases fill obligation with hzero | hbig
    · rw [if_pos hzero, List.nil_append]
      rw [hzero, add_zero] at hconsumed
      exact hconsumed
    · have hne : fillConsumes fill obligation ≠ 0 := (epsilon12_pos.trans hbig).ne'
      rw [if_neg hne]
      right
      refine ⟨by simp, ?_⟩
      rcases hconsumed with ⟨-, heq⟩ | ⟨-, hmore⟩
      · rw [heq]
        linarith
      · linarith [epsilon12_pos]

theorem getLast?_chainFills {fills : List FillEvent} (h : fills ≠ [])
    (obligation : OrderObligation) :
    (chainFills (some obligation) fills).getLast? = some (chainEnd (some obligation) fills) := by
  induction fills generalizing obligation with
  | nil => exact absurd rfl h
  | cons fill fills ih =>
    cases fills with
    | nil => rfl
    | cons next rest =>
      have hrest := ih (by simp) (applyFillToObligation fill obligation)
      simp only [chainFills, chainEnd] at hrest ⊢
      rw [List.getLast?_cons_cons]
      exact hrest

theorem mirroredObligation_spec {change : OrderChange}
    (h : change.mirroredObligation obligation = some new) :
    SameReserve obligation new ∧
      ConsumedBy obligation new (newlyConsumed obligation change.fills) := by
  -- a finalization at the end of a chain consumes nothing
  have hfinal : ∀ {orderState last}, applyFinalizationToObligation orderState (some last) =
      some new → ∀ {fills}, SameReserve obligation last → ConsumedBy obligation last fills →
      SameReserve obligation new ∧ ConsumedBy obligation new fills := by
    intro orderState last hnew fills hsame hconsumed
    obtain ⟨-, hamount, -⟩ := applyFinalizationToObligation_amounts hnew
    refine ⟨hsame.trans (sameReserve_finalization hnew), ?_⟩
    unfold ConsumedBy at hconsumed ⊢
    rw [hamount]
    exact hconsumed
  cases change with
  | fill fill =>
    obtain rfl := Option.some.inj h
    obtain ⟨last, hlast, hspec⟩ := chainEnd_spec [fill] obligation
    obtain rfl := Option.some.inj hlast
    exact hspec
  | finalize orderState =>
    exact hfinal h (SameReserve.refl _) (.inl ⟨rfl, rfl⟩)
  | batch fills orderState =>
    obtain ⟨last, hlast, hsame, hconsumed⟩ := chainEnd_spec fills obligation
    simp only [OrderChange.mirroredObligation, previewChainedFillObligationsAndFinalize,
      hlast] at h
    cases hend : applyFinalizationToObligation orderState (some last) with
    | some final =>
      rw [hend, Option.some_or] at h
      obtain rfl := Option.some.inj h
      exact hfinal hend hsame hconsumed
    | none =>
      rw [hend, Option.none_or] at h
      by_cases hnil : fills = []
      · subst hnil
        cases h
      · rw [getLast?_chainFills hnil, hlast] at h
        obtain rfl := Option.some.inj h
        exact ⟨hsame, hconsumed⟩

end Changes

/-! ### Whole runs -/

namespace MirroredOrders

def Behind (order : MirroredOrder) (row : ReservationRow) : Prop :=
  (order.pending = [] ∧ order.obligation.consumedAmount = row.consumedAmount) ∨
    (order.pending ≠ [] ∧ epsilon12 < order.obligation.consumedAmount - row.consumedAmount)

structure Tracks (state : MirroredOrders) : Prop where
  sound : state.books.Sound
  orderIds : (state.orders.map MirroredOrder.clientOrderId).Nodup
  obligationIds : (state.orders.map (·.obligation.obligationId)).Nodup
  owned : ∀ record ∈ state.books.reservations, ∃ order ∈ state.orders,
    LedgerBooks.Keyed record order.obligation
  reserves : ∀ order ∈ state.orders, epsilon12 < order.obligation.reservedAmount
  behind : ∀ order ∈ state.orders,
    Behind order (state.books.currentReservation order.obligation).row
  fees : ∀ account : LedgerAccount, account.accountType = .cashReserved →
    |LedgerBooks.feeBalance state.books.ledger account - state.mirroredFees account| ≤
      epsilon12 * state.mirroredCount

/-- The order of a sync is an order of the state with its obligation changed, or a new one. -/
structure Admissible (state : MirroredOrders) (order : MirroredOrder) : Prop where
  reserves : epsilon12 < order.obligation.reservedAmount
  behind : Behind order (state.books.currentReservation order.obligation).row
  known : (∃ old, state.order order.clientOrderId = some old ∧
      SameReserve old.obligation order.obligation ∧ order.mirrored = old.mirrored) ∨
    (state.order order.clientOrderId = none ∧ order.mirrored = [] ∧
      ∀ old ∈ state.orders, old.obligation.obligationId ≠ order.obligation.obligationId)

section Step

variable {state : MirroredOrders} {order : MirroredOrder}

theorem consumed_currentReservation (books : LedgerBooks) {old new : OrderObligation}
    (h : new.clientOrderId = old.clientOrderId) :
    (books.currentReservation new).row.consumedAmount =
      (books.currentReservation old).row.consumedAmount := by
  unfold LedgerBooks.currentReservation
  rw [h]
  cases books.reservation old.clientOrderId <;> rfl

theorem Tracks.reservation_eq_none (h : state.Tracks) {clientOrderId : String}
    (hnone : state.order clientOrderId = none) : state.books.reservation clientOrderId = none := by
  unfold LedgerBooks.reservation
  rw [lookup_eq_none]
  intro record hmem heq
  obtain ⟨owner, howner, hkeyed⟩ := h.owned record hmem
  exact lookup_eq_none.mp hnone owner howner (hkeyed.1.symm.trans heq)

theorem Tracks.admissible (h : state.Tracks) {label : ManagerLabel} {call : SyncCall}
    (hcall : call ∈ state.call label) : state.Admissible call.order := by
  cases label with
  | reserve obligation works =>
    simp only [MirroredOrders.call] at hcall
    cases horder : state.order obligation.clientOrderId with
    | some old =>
      rw [horder] at hcall
      obtain rfl := Option.some.inj hcall
      have hmem := mem_of_lookup horder
      have hid : old.clientOrderId = obligation.clientOrderId := key_of_lookup horder
      refine ⟨h.reserves old hmem, h.behind old hmem, .inl ⟨old, ?_, SameReserve.refl _, rfl⟩⟩
      rw [hid]
      exact horder
    | none =>
      rw [horder] at hcall
      simp only [] at hcall
      split at hcall
      · next hnew =>
        obtain rfl := Option.some.inj hcall
        refine ⟨hnew.1.reserved, .inl ⟨rfl, ?_⟩, .inr ⟨horder, rfl, by simpa using hnew.2⟩⟩
        -- there is no row yet, so nothing is consumed on either side
        have hrow : state.books.currentReservation obligation =
            LedgerBooks.newReservation obligation := by
          rw [LedgerBooks.currentReservation, h.reservation_eq_none horder]
          rfl
        rw [hrow]
        exact hnew.1.consumed
      · cases hcall
  | change clientOrderId change works =>
    simp only [MirroredOrders.call] at hcall
    cases horder : state.order clientOrderId with
    | none =>
      rw [horder] at hcall
      cases hcall
    | some old =>
      rw [horder] at hcall
      simp only [] at hcall
      cases hnew : change.mirroredObligation old.obligation with
      | none =>
        rw [hnew] at hcall
        cases hcall
      | some obligation =>
        rw [hnew] at hcall
        obtain rfl := Option.some.inj hcall
        obtain ⟨hsame, hconsumed⟩ := mirroredObligation_spec hnew
        have hmem := mem_of_lookup horder
        have hid : old.clientOrderId = clientOrderId := key_of_lookup horder
        refine ⟨?_, ?_, .inl ⟨old, ?_, hsame, rfl⟩⟩
        · rw [hsame.reservedAmount]
          exact h.reserves old hmem
        · unfold Behind
          rw [consumed_currentReservation _ hsame.clientOrderId]
          simp only [List.append_eq_nil_iff, ne_eq]
          rcases h.behind old hmem with ⟨hnone, heq⟩ | ⟨hsome, hlt⟩ <;>
            rcases hconsumed with ⟨hfew, hkept⟩ | ⟨hmany, hmore⟩
          · exact .inl ⟨⟨hnone, hfew⟩, hkept.trans heq⟩
          · refine .inr ⟨fun hboth => hmany hboth.2, ?_⟩
            rw [← heq]
            exact hmore
          · refine .inr ⟨fun hboth => hsome hboth.1, ?_⟩
            rw [hkept]
            exact hlt
          · refine .inr ⟨fun hboth => hsome hboth.1, ?_⟩
            linarith [epsilon12_pos]
        · show state.order obligation.clientOrderId = some old
          rw [hsame.clientOrderId]
          show state.order old.clientOrderId = some old
          rw [hid]
          exact horder

theorem Tracks.orders_stored (h : state.Tracks) (hadmissible : state.Admissible order)
    (stored : MirroredOrder) (hstored : stored.obligation = order.obligation) :
    ((upsert MirroredOrder.clientOrderId state.orders stored).map
      MirroredOrder.clientOrderId).Nodup ∧
    ((upsert MirroredOrder.clientOrderId state.orders stored).map
      (·.obligation.obligationId)).Nodup ∧
    (∀ other ∈ upsert MirroredOrder.clientOrderId state.orders stored,
      epsilon12 < other.obligation.reservedAmount) ∧
    ∀ record, (∃ owner ∈ state.orders, LedgerBooks.Keyed record owner.obligation) →
      ∃ owner ∈ upsert MirroredOrder.clientOrderId state.orders stored,
        LedgerBooks.Keyed record owner.obligation := by
  have hid : stored.clientOrderId = order.clientOrderId :=
    congrArg OrderObligation.clientOrderId hstored
  refine ⟨nodup_keys_upsert h.orderIds, ?_, ?_, ?_⟩
  · apply nodup_map_upsert h.obligationIds
    · -- only the order itself has its id
      intro other hother heq
      have hlookup := lookup_of_mem h.orderIds hother
      rw [heq, hid] at hlookup
      rcases hadmissible.known with ⟨old, hold, hsame, -⟩ | ⟨hnone, -, -⟩
      · obtain rfl := Option.some.inj (hlookup.symm.trans hold)
        rw [hstored]
        exact hsame.obligationId
      · exact absurd (hlookup.symm.trans hnone) (by simp)
    · intro hnew other hother
      rw [hstored]
      rcases hadmissible.known with ⟨old, hold, -, -⟩ | ⟨-, -, hfresh⟩
      · exact absurd ((key_of_lookup hold).trans hid.symm) (hnew old (mem_of_lookup hold))
      · exact hfresh other hother
  · intro other hother
    rcases mem_upsert.mp hother with rfl | ⟨hother, -⟩
    · rw [hstored]
      exact hadmissible.reserves
    · exact h.reserves other hother
  · rintro record ⟨owner, howner, hkeyed⟩
    by_cases heq : owner.clientOrderId = stored.clientOrderId
    · -- the owner is the order that is stored
      refine ⟨stored, mem_upsert.mpr (.inl rfl), ?_⟩
      have hlookup := lookup_of_mem h.orderIds howner
      rw [heq, hid] at hlookup
      rcases hadmissible.known with ⟨old, hold, hsame, -⟩ | ⟨hnone, -, -⟩
      · obtain rfl := Option.some.inj (hlookup.symm.trans hold)
        rw [hstored]
        exact hsame.keyed hkeyed
      · exact absurd (hlookup.symm.trans hnone) (by simp)
    · exact ⟨owner, mem_upsert.mpr (.inr ⟨howner, heq⟩), hkeyed⟩

theorem Tracks.mirrored_stored (h : state.Tracks) (hadmissible : state.Admissible order)
    (stored : MirroredOrder) (hstored : stored.obligation = order.obligation) {more : List FillEvent}
    (hmore : stored.mirrored = order.mirrored ++ more) (books : LedgerBooks)
    (account : LedgerAccount) :
    mirroredFees { orders := upsert MirroredOrder.clientOrderId state.orders stored, books }
        account = state.mirroredFees account +
      (if obligationAccount order.obligation .cashReserved = account then
        (more.map (reserveFee order.obligation)).sum else 0) ∧
    mirroredCount { orders := upsert MirroredOrder.clientOrderId state.orders stored, books } =
      state.mirroredCount + more.length := by
  have hid : stored.clientOrderId = order.clientOrderId :=
    congrArg OrderObligation.clientOrderId hstored
  unfold mirroredFees mirroredCount
  simp only [sum_upsert h.orderIds, hid]
  rcases hadmissible.known with ⟨old, hold, hsame, hmirrored⟩ | ⟨hnone, hmirrored, -⟩
  · simp only [show lookup _ _ _ = some old from hold, Option.map_some, Option.getD_some, hstored,
      hmore, hmirrored, hsame.account, hsame.reserveFee, List.map_append, List.sum_append,
      List.length_append, Nat.cast_add]
    constructor
    · split <;> ring
    · ring
  · simp only [show lookup _ _ _ = none from hnone, Option.map_none, Option.getD_none, hstored,
      hmore, hmirrored, List.nil_append, sub_zero, and_self]

theorem Tracks.skipped (h : state.Tracks) (hadmissible : state.Admissible order) :
    Tracks { state with
      orders := upsert MirroredOrder.clientOrderId state.orders order } := by
  obtain ⟨horders, hids, hreserves, howned⟩ := h.orders_stored hadmissible order rfl
  refine ⟨h.sound, horders, hids, ?_, hreserves, ?_, ?_⟩
  · intro record hmem
    exact howned record (h.owned record hmem)
  · intro other hother
    rcases mem_upsert.mp hother with rfl | ⟨hother, -⟩
    · exact hadmissible.behind
    · exact h.behind other hother
  · intro account htype
    obtain ⟨hfees, hcount⟩ :=
      h.mirrored_stored hadmissible order rfl (List.append_nil _).symm state.books account
    rw [hfees, hcount]
    simpa using h.fees account htype

theorem abs_attributedFee_sub (obligation : OrderObligation) (fill : FillEvent) :
    |LedgerBooks.attributedFee obligation fill - reserveFee obligation fill| ≤ epsilon12 := by
  unfold LedgerBooks.attributedFee
  split
  · next hsmall =>
    rw [zero_sub, abs_neg]
    exact hsmall
  · rw [sub_self, abs_zero]
    exact epsilon12_pos.le

theorem Admissible.deltaConsumed_cases (h : state.Admissible order) :
    (order.pending = [] ∧
      LedgerBooks.deltaConsumed (state.books.currentReservation order.obligation)
        order.obligation = 0) ∨
    (order.pending ≠ [] ∧ epsilon12 <
      LedgerBooks.deltaConsumed (state.books.currentReservation order.obligation)
        order.obligation) := by
  unfold LedgerBooks.deltaConsumed
  rcases h.behind with ⟨hnone, heq⟩ | ⟨hsome, hlt⟩
  · exact .inl ⟨hnone, by rw [heq, sub_self, max_self]⟩
  · exact .inr ⟨hsome, lt_max_of_lt_left hlt⟩

theorem Admissible.caught_up (h : state.Admissible order) :
    order.obligation.consumedAmount =
      (state.books.currentReservation order.obligation).row.consumedAmount +
        takenDelta (LedgerBooks.deltaConsumed
          (state.books.currentReservation order.obligation) order.obligation) := by
  rcases h.behind with ⟨-, heq⟩ | ⟨-, hlt⟩
  · have hzero : LedgerBooks.deltaConsumed (state.books.currentReservation order.obligation)
        order.obligation = 0 := by
      rw [LedgerBooks.deltaConsumed, heq, sub_self, max_self]
    rw [hzero, takenDelta, if_pos epsilon12_pos.le, add_zero]
    exact heq
  · have hpos : LedgerBooks.deltaConsumed (state.books.currentReservation order.obligation)
        order.obligation = order.obligation.consumedAmount -
          (state.books.currentReservation order.obligation).row.consumedAmount :=
      max_eq_left (epsilon12_pos.trans hlt).le
    rw [hpos, takenDelta, if_neg (not_le.mpr hlt)]
    ring

section Synced

variable {relatedFill : Option FillEvent} {books : LedgerBooks}

theorem Tracks.settles (h : state.Tracks) (hadmissible : state.Admissible order)
    (haccounts : order.pending = [] ∨ ∃ fill ∈ relatedFill,
      hasSource state.books.ledger .fillSettlement (.settlement fill.fillId) = false) :
    state.books.Settles order.obligation relatedFill := by
  refine ⟨?_, ?_, hadmissible.reserves, ?_⟩
  · -- the row belongs to the order
    intro record hrecord
    obtain ⟨owner, howner, hkeyed⟩ := h.owned record (mem_of_lookup hrecord)
    have hlookup := lookup_of_mem h.orderIds howner
    have hid : owner.clientOrderId = order.clientOrderId :=
      hkeyed.1.symm.trans (key_of_lookup hrecord)
    rw [hid] at hlookup
    rcases hadmissible.known with ⟨old, hold, hsame, -⟩ | ⟨hnone, -, -⟩
    · obtain rfl := Option.some.inj (hlookup.symm.trans hold)
      exact hsame.keyed hkeyed
    · exact absurd (hlookup.symm.trans hnone) (by simp)
  · intro hunknown record hmem hid
    obtain ⟨owner, howner, hkeyed⟩ := h.owned record hmem
    rcases hadmissible.known with ⟨old, hold, hsame, -⟩ | ⟨-, -, hfresh⟩
    · have hsameOrder : owner = old :=
        List.inj_on_of_nodup_map h.obligationIds howner (mem_of_lookup hold)
          (hkeyed.2.1.symm.trans (hid.trans hsame.obligationId))
      have horder : record.orderId = order.obligation.clientOrderId := by
        rw [hkeyed.1, hsameOrder]
        exact hsame.clientOrderId.symm
      exact lookup_eq_none.mp hunknown record hmem horder
    · exact hfresh owner howner (hkeyed.2.1.symm.trans hid)
  · intro hbig
    rcases hadmissible.deltaConsumed_cases with ⟨-, hzero⟩ | ⟨hsome, -⟩
    · rw [hzero] at hbig
      exact absurd epsilon12_pos.le (not_le.mpr hbig)
    · exact haccounts.resolve_left hsome

/-- The fees of the ledger stay with those of the mirrored fills, to which the pending ones are
added. -/
theorem Tracks.fees_synced (h : state.Tracks) (hadmissible : state.Admissible order)
    (hready : state.books.Settles order.obligation relatedFill)
    (hsync : state.books.syncObligation order.obligation relatedFill = .ok books)
    (haccounts : order.pending = [] ∨ ∃ fill ∈ relatedFill,
      hasSource state.books.ledger .fillSettlement (.settlement fill.fillId) = false ∧
      reserveFee order.obligation fill =
        (order.pending.map (reserveFee order.obligation)).sum)
    {account : LedgerAccount} (htype : account.accountType = .cashReserved) :
    |LedgerBooks.feeBalance books.ledger account - (state.mirroredFees account +
      if obligationAccount order.obligation .cashReserved = account then
        (order.pending.map (reserveFee order.obligation)).sum else 0)| ≤
      epsilon12 * (state.mirroredCount + order.pending.length) := by
  have hbefore := h.fees account htype
  rcases h.sound.sync_feeBalance hready hsync htype with
    ⟨hsmall, hsame⟩ | ⟨fill, rfl, hbig, hmoved⟩
  · -- nothing was taken, so nothing was pending
    have hnone : order.pending = [] := by
      rcases hadmissible.deltaConsumed_cases with ⟨hnone, -⟩ | ⟨-, hbig⟩
      · exact hnone
      · exact absurd hsmall (not_le.mpr hbig)
    rw [hsame, hnone]
    simpa using hbefore
  · have hsome : order.pending ≠ [] := by
      rcases hadmissible.deltaConsumed_cases with ⟨-, hzero⟩ | ⟨hsome, -⟩
      · rw [hzero] at hbig
        exact absurd epsilon12_pos.le (not_le.mpr hbig)
      · exact hsome
    obtain ⟨other, hother, -, hsum⟩ := haccounts.resolve_left hsome
    obtain rfl := Option.some.inj hother
    have hone : (1 : ℚ) ≤ order.pending.length := by
      exact_mod_cast List.length_pos_iff.mpr hsome
    have hfee := abs_attributedFee_sub order.obligation fill
    have hmore := mul_le_mul_of_nonneg_left hone epsilon12_pos.le
    rw [hmoved, ← hsum]
    by_cases haccount : obligationAccount order.obligation .cashReserved = account
    · rw [if_pos haccount, if_pos haccount]
      rw [abs_le] at hbefore hfee ⊢
      constructor <;> linarith [hbefore.1, hbefore.2, hfee.1, hfee.2]
    · rw [if_neg haccount, if_neg haccount, add_zero, add_zero]
      linarith [epsilon12_pos]

theorem Tracks.synced (h : state.Tracks) (hadmissible : state.Admissible order)
    (hsync : state.books.syncObligation order.obligation relatedFill = .ok books)
    (haccounts : order.pending = [] ∨ ∃ fill ∈ relatedFill,
      hasSource state.books.ledger .fillSettlement (.settlement fill.fillId) = false ∧
      reserveFee order.obligation fill =
        (order.pending.map (reserveFee order.obligation)).sum) :
    Tracks
      { orders := upsert MirroredOrder.clientOrderId state.orders
          { order with pending := [], mirrored := order.mirrored ++ order.pending }
        books := books } := by
  have hready : state.books.Settles order.obligation relatedFill := by
    apply h.settles hadmissible
    rcases haccounts with hnone | ⟨fill, hfill, hnew, -⟩
    · exact .inl hnone
    · exact .inr ⟨fill, hfill, hnew⟩
  obtain ⟨⟨record, hrecord, hkeyed, hconsumed⟩, hothers, hrows⟩ :=
    h.sound.sync_reservation hready hsync
  obtain ⟨horders, hids, hreserves, howned⟩ := h.orders_stored hadmissible
    { order with pending := [], mirrored := order.mirrored ++ order.pending } rfl
  refine ⟨h.sound.sync hready hsync, horders, hids, ?_, hreserves, ?_, ?_⟩
  · intro other hother
    rcases hrows other hother with hkeyed | hother
    · exact ⟨_, mem_upsert.mpr (.inl rfl), hkeyed⟩
    · exact howned other (h.owned other hother)
  · intro other hother
    rcases mem_upsert.mp hother with rfl | ⟨hother, hne⟩
    · left
      refine ⟨rfl, ?_⟩
      show order.obligation.consumedAmount =
        (books.currentReservation order.obligation).row.consumedAmount
      rw [LedgerBooks.currentReservation, hrecord, Option.getD_some, hconsumed]
      exact hadmissible.caught_up
    · have hrow : (books.currentReservation other.obligation) =
          state.books.currentReservation other.obligation := by
        unfold LedgerBooks.currentReservation
        rw [hothers other.obligation.clientOrderId hne]
      show Behind other (books.currentReservation other.obligation).row
      rw [hrow]
      exact h.behind other hother
  · intro account htype
    obtain ⟨hfees, hcount⟩ := h.mirrored_stored hadmissible
      { order with pending := [], mirrored := order.mirrored ++ order.pending } rfl rfl books account
    rw [hfees, hcount]
    exact h.fees_synced hadmissible hready hsync haccounts htype

end Synced

theorem Tracks.step (h : state.Tracks) {label : ManagerLabel} (hok : AccountsForFills state label)
    {next : MirroredOrders} (hstep : state.step label = some next) : next.Tracks := by
  obtain ⟨call, hcall, rfl⟩ := Option.map_eq_some_iff.mp hstep
  have hadmissible := h.admissible hcall
  unfold MirroredOrders.sync
  split
  · next books hworks hsync =>
    exact h.synced hadmissible hsync (hok call hcall hworks (by rw [hsync]; rfl))
  · exact h.skipped hadmissible

end Step

theorem tracks_start : Tracks {} := by
  refine ⟨⟨by simp, by simp, ?_, ?_, ?_, ?_⟩, by simp, by simp, by simp, by simp, by simp, ?_⟩
  · intro obligationId amount hposted
    cases hposted
  · intro obligationId amount hposted
    cases hposted
  · intro fillId currency hposted
    cases hposted
  · intro account htype
    rfl
  · intro account htype
    simp [LedgerBooks.feeBalance, balanceByAccount, entryBalance, mirroredFees, mirroredCount]

theorem Tracks.agrees {state : MirroredOrders} (h : state.Tracks) : state.Agrees := by
  intro account htype
  refine ⟨?_, h.fees account htype⟩
  rw [h.sound.reserved account htype, sub_self, abs_zero]
  exact mul_nonneg epsilon12_pos.le (Nat.cast_nonneg _)

end MirroredOrders

/-- **Reserved cash is what the reservations have open**, and the fee accounts hold the fees of the
mirrored fills, in every run whose syncs account for the fills consumed since the last one. -/
theorem reserved_cash_agrees (labels : List ManagerLabel) (state : MirroredOrders)
    (hrun : Runs.run MirroredOrders.step {} labels = some state)
    (hmeets : Runs.Meets MirroredOrders.step AccountsForFills {} labels) : state.Agrees := by
  have htracks : state.Tracks :=
    Runs.run_invariant_of_meets (fun _ _ _ h hok hstep => h.step hok hstep)
      MirroredOrders.tracks_start hmeets hrun
  exact htracks.agrees

instance (state : MirroredOrders) (label : ManagerLabel) :
    Decidable (AccountsForFills state label) :=
  inferInstanceAs (Decidable (∀ call ∈ state.call label, _ → _ → _))

/-- A spot order that reserves 100 USDT. -/
def hundredOrder : OrderObligation :=
  { hundredReserved with obligationId := "obligation-1", clientOrderId := "order-1" }

/-- A fill of 49 USDT that pays 1 USDT. -/
def paidFill (fillId : String) : FillEvent :=
  { plainFill fillId (49 / 100) 100 with feeAmount := 1 }

def halfCanceled : OrderState := { status := .canceled, requestedQty := 1, remainingQty := 1 / 2 }

/-- A fill whose first sync failed comes again in a batch, and the rest is canceled. -/
def settledInTime : List ManagerLabel :=
  [.reserve hundredOrder true, .change "order-1" (.fill (paidFill "fill-1")) false,
    .change "order-1" (.batch [paidFill "fill-1"] halfCanceled) true]

/-- A fill whose sync failed, and a cancel that mirrors it without a fill. -/
def settledByCancel : List ManagerLabel :=
  [.reserve hundredOrder true, .change "order-1" (.fill (paidFill "fill-1")) false,
    .change "order-1" (.finalize halfCanceled) true]

def reservedUsdt : LedgerAccount :=
  { accountType := .cashReserved, currency := "USDT", productType := .spot, marginMode := .cash }

theorem reserved_cash_agrees_settledInTime :
    Runs.Meets MirroredOrders.step AccountsForFills {} settledInTime ∧
    ∃ state, Runs.run MirroredOrders.step {} settledInTime = some state ∧ state.Agrees ∧
      balanceByAccount state.books.ledger reservedUsdt = 0 ∧
      LedgerBooks.feeBalance state.books.ledger reservedUsdt = 1 := by
  have hmeets : Runs.Meets MirroredOrders.step AccountsForFills {} settledInTime := by
    decide +kernel
  have hbalances : (Runs.run MirroredOrders.step {} settledInTime).map (fun state =>
      (balanceByAccount state.books.ledger reservedUsdt,
        LedgerBooks.feeBalance state.books.ledger reservedUsdt)) = some (0, 1) := by
    decide +kernel
  obtain ⟨state, hrun, hstate⟩ := Option.map_eq_some_iff.mp hbalances
  obtain ⟨hreserved, hfees⟩ := Prod.mk.inj hstate
  exact ⟨hmeets, state, hrun, reserved_cash_agrees _ _ hrun hmeets, hreserved, hfees⟩

theorem reserved_cash_kept_by_cancel :
    ¬ ∀ (labels : List ManagerLabel) (state : MirroredOrders),
      Runs.run MirroredOrders.step {} labels = some state → state.Agrees := by
  intro hclaim
  have hbalances : (Runs.run MirroredOrders.step {} settledByCancel).map (fun state =>
      (balanceByAccount state.books.ledger reservedUsdt,
        state.books.openReservations reservedUsdt, state.books.ledger.length)) =
      some (50, 0, 2) := by
    decide +kernel
  obtain ⟨state, hrun, hstate⟩ := Option.map_eq_some_iff.mp hbalances
  obtain ⟨hreserved, hrest⟩ := Prod.mk.inj hstate
  obtain ⟨hopen, hlength⟩ := Prod.mk.inj hrest
  obtain ⟨hclose, -⟩ := hclaim settledByCancel state hrun reservedUsdt rfl
  rw [hreserved, hopen, hlength] at hclose
  norm_num [epsilon12] at hclose

end Aats.Portfolio
