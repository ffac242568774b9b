import Aats.Lib.Runs
import Aats.Portfolio.MirrorPosting
import Mathlib.Data.Fintype.Prod

/-!
# Double entry

Three services post to one ledger: opening balances, fills and the reservation mirror. A journal
is made of two entries of one amount, so a ledger in which every journal is posted as a whole is
balanced, and the balances of all accounts of a currency add up to zero.

`settlement_posting.py` looks for the source before it posts. The mirror inserts every entry by
itself, which comes to the same as long as a second journal of a source has the labels of the
first. Only the attribution of a fee changes its labels, with the sign of the fee.

## Main results
* `double_entry` — the ledger is balanced, and repeated calls change nothing.
-/

namespace Aats.Portfolio

open Execution

/-! ### Calls -/

inductive LedgerCall
  | ensureInitialBalance (currency : String) (amount : ℚ) (productType : ProductType)
      (marginMode : MarginMode)
  | syncObligation (obligation : OrderObligation) (relatedFill : Option FillEvent)
  | postFillEffects (fill : FillEvent) (projection : FillSettlementProjection)

/-- The books after a call; one that raises is rolled back. -/
def LedgerBooks.perform (books : LedgerBooks) : LedgerCall → LedgerBooks
  | .ensureInitialBalance currency amount productType marginMode =>
    { books with
      ledger := Portfolio.ensureInitialBalance books.ledger currency amount productType
        marginMode }
  | .syncObligation obligation relatedFill =>
    match books.syncObligation obligation relatedFill with
    | .ok next => next
    | .error _ => books
  | .postFillEffects fill projection =>
    { books with
      ledger := Portfolio.postFillEffects books.ledger fill projection
        (books.reservation fill.clientOrderId).isSome }

def LedgerBooks.performAll (books : LedgerBooks) (calls : List LedgerCall) : LedgerBooks :=
  calls.foldl LedgerBooks.perform books

/-! ### Balance -/

def LedgerJournal.total (journal : LedgerJournal) (direction : Direction) (currency : String) : ℚ :=
  ((journal.entries.filter (fun entry => entry.direction = direction ∧
    entry.account.currency = currency)).map (·.amount)).sum

def LedgerJournal.Balanced (journal : LedgerJournal) : Prop :=
  ∀ currency, journal.total .debit currency = journal.total .credit currency

instance : Fintype AccountType where
  elems := {.cashAvailable, .cashReserved, .externalClearing, .realizedPnl, .feeExpense, .feeIncome,
    .openingBalance}
  complete := by
    intro accountType
    cases accountType <;> decide

instance : Fintype ProductType where
  elems := {.spot, .derivatives}
  complete := by
    intro productType
    cases productType <;> decide

instance : Fintype MarginMode where
  elems := {.cash, .cross, .isolated}
  complete := by
    intro marginMode
    cases marginMode <;> decide

def totalBalance (ledger : Ledger) (currency : String) : ℚ :=
  ∑ scope : AccountType × ProductType × MarginMode,
    balanceByAccount ledger
      { accountType := scope.1, currency, productType := scope.2.1, marginMode := scope.2.2 }

def signedTotal (entries : List LedgerEntry) (currency : String) : ℚ :=
  (entries.map (fun entry =>
    if entry.account.currency = currency then entry.signedAmount else 0)).sum

theorem signedTotal_eq (journal : LedgerJournal) (currency : String) :
    signedTotal journal.entries currency =
      journal.total .debit currency - journal.total .credit currency := by
  unfold signedTotal LedgerJournal.total
  induction journal.entries with
  | nil => simp
  | cons entry entries ih =>
    rw [List.map_cons, List.sum_cons, ih, List.filter_cons, List.filter_cons]
    by_cases hcurrency : entry.account.currency = currency
    · cases hdirection : entry.direction <;>
        simp [hcurrency, hdirection, LedgerEntry.signedAmount] <;> ring
    · simp [hcurrency]

theorem sum_entryBalance (entries : List LedgerEntry) (currency : String) :
    (∑ scope : AccountType × ProductType × MarginMode, entryBalance entries
      { accountType := scope.1, currency, productType := scope.2.1, marginMode := scope.2.2 }) =
      signedTotal entries currency := by
  induction entries with
  | nil => simp [entryBalance, signedTotal]
  | cons entry entries ih =>
    have hcons : ∀ account, entryBalance (entry :: entries) account =
        (if entry.account = account then entry.signedAmount else 0) +
          entryBalance entries account := by
      intro account
      unfold entryBalance
      by_cases h : entry.account = account <;> simp [h]
    have hone : (∑ scope : AccountType × ProductType × MarginMode,
        if entry.account =
          { accountType := scope.1, currency, productType := scope.2.1, marginMode := scope.2.2 }
        then entry.signedAmount else 0) =
          if entry.account.currency = currency then entry.signedAmount else 0 := by
      obtain ⟨⟨accountType, other, productType, marginMode⟩, direction, amount⟩ := entry
      by_cases hcurrency : other = currency
      · rw [Finset.sum_eq_single (accountType, productType, marginMode)]
        · simp [hcurrency]
        · rintro ⟨t, p, m⟩ - hne
          rw [if_neg]
          rintro heq
          simp only [LedgerAccount.mk.injEq] at heq
          exact hne (by rw [heq.1, heq.2.2.1, heq.2.2.2])
        · intro habsent
          exact absurd (Finset.mem_univ _) habsent
      · simp [hcurrency]
    simp only [hcons, Finset.sum_add_distrib, ih, hone]
    simp [signedTotal]

theorem totalBalance_eq_zero {ledger : Ledger} (h : ∀ journal ∈ ledger, journal.Balanced)
    (currency : String) : totalBalance ledger currency = 0 := by
  have hsum : totalBalance ledger currency = signedTotal (ledger.flatMap (·.entries)) currency :=
    sum_entryBalance _ _
  rw [hsum]
  induction ledger with
  | nil => simp [signedTotal]
  | cons journal ledger ih =>
    have hfirst : signedTotal journal.entries currency = 0 := by
      rw [signedTotal_eq, h journal List.mem_cons_self currency, sub_self]
    have hrest := ih (fun other hmem => h other (List.mem_cons_of_mem _ hmem)) (sum_entryBalance _ _)
    simp only [signedTotal, List.flatMap_cons, List.map_append, List.sum_append] at *
    rw [hfirst, hrest, add_zero]

theorem balanced_twoLegs (journalType : JournalType) (sourceType : SourceType)
    (sourceId : SourceId) {debited credited : LedgerAccount} (amount : ℚ)
    (h : debited.currency = credited.currency) :
    (twoLegs journalType sourceType sourceId debited credited amount).Balanced := by
  intro currency
  unfold LedgerJournal.total twoLegs
  by_cases hcurrency : credited.currency = currency <;> simp [h, hcurrency]

/-! ### Whole journals -/

def LedgerJournal.Has (journal : LedgerJournal) (accountType : AccountType) : Prop :=
  ∃ entry ∈ journal.entries, entry.account.accountType = accountType

/-- A journal of the mirror has the labels that its source and its type call for. -/
def LedgerJournal.Labelled (journal : LedgerJournal) : Prop :=
  match journal.sourceType with
  | .reservation | .reservationRelease => journal.Has .cashReserved ∧ journal.Has .cashAvailable
  | .fillSettlement => journal.Has .externalClearing ∧ journal.Has .cashReserved
  | .fillFeeAttribution =>
    journal.Has .externalClearing ∧
      (journal.journalType = .fillFeeExpense → journal.Has .feeExpense) ∧
      (journal.journalType = .fillFeeIncome → journal.Has .feeIncome)
  | _ => True

/-- Every journal is balanced and has its labels. -/
def Whole (ledger : Ledger) : Prop := ∀ journal ∈ ledger, journal.Balanced ∧ journal.Labelled

theorem has_debited (journalType : JournalType) (sourceType : SourceType) (sourceId : SourceId)
    (debited credited : LedgerAccount) (amount : ℚ) :
    (twoLegs journalType sourceType sourceId debited credited amount).Has debited.accountType :=
  ⟨_, List.mem_cons_self, rfl⟩

theorem has_credited (journalType : JournalType) (sourceType : SourceType) (sourceId : SourceId)
    (debited credited : LedgerAccount) (amount : ℚ) :
    (twoLegs journalType sourceType sourceId debited credited amount).Has credited.accountType :=
  ⟨_, List.mem_cons_of_mem _ List.mem_cons_self, rfl⟩

section Posting

variable {ledger : Ledger} {journal : LedgerJournal} {obligation : OrderObligation}
  {fill : FillEvent}

theorem postJournal_eq_postOnce
    (h : ∀ posted ∈ ledger, posted.sourceType = journal.sourceType →
      posted.sourceId = journal.sourceId →
      ∀ entry ∈ journal.entries, posted.Has entry.account.accountType) :
    postJournal ledger journal = postOnce ledger journal := by
  unfold postJournal postOnce
  split
  · conv_rhs => rw [← List.map_id ledger]
    apply List.map_congr_left
    intro posted hmem
    split
    · next hsame =>
      obtain ⟨htype, hid⟩ := decide_eq_true_iff.mp hsame
      have hnone : journal.entries.filter (fun entry => posted.entries.all (fun other =>
          other.account.accountType ≠ entry.account.accountType)) = [] := by
        rw [List.filter_eq_nil_iff]
        intro entry hentry hall
        obtain ⟨other, hother, heq⟩ := h posted hmem htype hid entry hentry
        exact absurd heq (by simpa using List.all_eq_true.mp hall other hother)
      unfold LedgerJournal.addEntries
      rw [hnone, List.append_nil]
      rfl
    · rfl
  · rfl

theorem mem_postOnce {posted : LedgerJournal} (h : posted ∈ postOnce ledger journal) :
    posted ∈ ledger ∨ posted = journal := by
  unfold postOnce at h
  split at h
  · exact .inl h
  · rcases List.mem_append.mp h with h | h
    · exact .inl h
    · exact .inr (List.mem_singleton.mp h)

theorem Whole.postOnce (h : Whole ledger) (hbalanced : journal.Balanced)
    (hlabelled : journal.Labelled) : Whole (postOnce ledger journal) := by
  intro posted hmem
  rcases mem_postOnce hmem with hmem | rfl
  · exact h posted hmem
  · exact ⟨hbalanced, hlabelled⟩

theorem Whole.twoLegs (h : Whole ledger) {journalType : JournalType} {sourceType : SourceType}
    {sourceId : SourceId} {debited credited : LedgerAccount} {amount : ℚ}
    (hcurrency : debited.currency = credited.currency)
    (hlabelled : (twoLegs journalType sourceType sourceId debited credited amount).Labelled)
    (hsource : ∀ posted ∈ ledger, posted.Labelled → posted.sourceType = sourceType →
      posted.sourceId = sourceId →
      posted.Has debited.accountType ∧ posted.Has credited.accountType) :
    Whole (postJournal ledger
      (Portfolio.twoLegs journalType sourceType sourceId debited credited amount)) := by
  rw [postJournal_eq_postOnce]
  · exact h.postOnce (balanced_twoLegs _ _ _ _ hcurrency) hlabelled
  · intro posted hmem htype hid entry hentry
    obtain ⟨hdebited, hcredited⟩ := hsource posted hmem (h posted hmem).2 htype hid
    simp only [Portfolio.twoLegs, List.mem_cons, List.not_mem_nil, or_false] at hentry
    rcases hentry with rfl | rfl
    · exact hdebited
    · exact hcredited

theorem Whole.hold (h : Whole ledger) (amount : ℚ) :
    Whole (postReservationHold ledger obligation amount) := by
  unfold postReservationHold
  split
  · exact h
  · refine h.twoLegs rfl ⟨has_debited _ _ _ _ _ _, has_credited _ _ _ _ _ _⟩ ?_
    intro posted hmem hlabelled htype _
    unfold LedgerJournal.Labelled at hlabelled
    rw [htype] at hlabelled
    exact hlabelled

theorem Whole.release (h : Whole ledger) (amount : ℚ) :
    Whole (postReservationRelease ledger obligation amount) := by
  unfold postReservationRelease
  split
  · exact h
  · refine h.twoLegs rfl ⟨has_credited _ _ _ _ _ _, has_debited _ _ _ _ _ _⟩ ?_
    intro posted hmem hlabelled htype _
    unfold LedgerJournal.Labelled at hlabelled
    rw [htype] at hlabelled
    exact hlabelled.symm

theorem Whole.settlement (h : Whole ledger) (amount : ℚ) :
    Whole (postJournal ledger (fillSettlement obligation fill amount)) := by
  refine h.twoLegs rfl ⟨has_debited _ _ _ _ _ _, has_credited _ _ _ _ _ _⟩ ?_
  intro posted hmem hlabelled htype _
  unfold LedgerJournal.Labelled at hlabelled
  rw [htype] at hlabelled
  exact hlabelled

/-- A fee is attributed as a whole where it was attributed with the same sign before, if at all. -/
theorem Whole.attribution (h : Whole ledger)
    (hsign : epsilon12 < |reserveFee obligation fill| → ∀ posted ∈ ledger,
      posted.sourceType = .fillFeeAttribution →
      posted.sourceId = .fill fill.fillId obligation.reserveCurrency →
      posted.journalType =
        (feeAttribution obligation fill (reserveFee obligation fill)).journalType) :
    Whole (feeAttributed ledger obligation fill) := by
  unfold feeAttributed
  split
  · exact h
  · next hbig =>
    have hsign := hsign (not_le.mp hbig)
    unfold feeAttribution at hsign ⊢
    split
    · next hpos =>
      rw [if_pos hpos] at hsign
      refine h.twoLegs rfl ⟨has_credited _ _ _ _ _ _, ?_, ?_⟩ ?_
      · intro _
        exact has_debited _ _ _ _ _ _
      · intro hother
        cases hother
      · intro posted hmem hlabelled htype hid
        have hexpense := hsign posted hmem htype hid
        unfold LedgerJournal.Labelled at hlabelled
        rw [htype] at hlabelled
        exact ⟨hlabelled.2.1 hexpense, hlabelled.1⟩
    · next hneg =>
      rw [if_neg hneg] at hsign
      refine h.twoLegs rfl ⟨has_debited _ _ _ _ _ _, ?_, ?_⟩ ?_
      · intro hother
        cases hother
      · intro _
        exact has_credited _ _ _ _ _ _
      · intro posted hmem hlabelled htype hid
        have hincome := hsign posted hmem htype hid
        unfold LedgerJournal.Labelled at hlabelled
        rw [htype] at hlabelled
        exact ⟨hlabelled.1, hlabelled.2.2 hincome⟩

end Posting

/-! ### The journals of a fill -/

def journalsIn (currency : Option String) (journal : String → LedgerJournal) :
    List LedgerJournal :=
  (currency.filter (· ≠ "")).toList.map journal

def spotJournals (fill : FillEvent) (projection : FillSettlementProjection) (reserved : Bool) :
    List LedgerJournal :=
  match fill.productType, fill.side with
  | .derivatives, _ => []
  | .spot, .buy =>
    (if reserved then [] else journalsIn projection.quoteCurrency (fillQuoteSpend fill)) ++
      journalsIn projection.baseCurrency (fillAssetReceipt fill)
  | .spot, .sell =>
    (if reserved then [] else journalsIn projection.baseCurrency (fillAssetDelivery fill)) ++
      journalsIn projection.quoteCurrency (fillQuoteProceeds fill)

def pnlJournals (fill : FillEvent) (projection : FillSettlementProjection) : List LedgerJournal :=
  if epsilon12 < |projection.realizedPnlDelta| then
    journalsIn projection.quoteCurrency (fillRealizedPnl fill projection.realizedPnlDelta)
  else []

def feeJournals (fill : FillEvent) (projection : FillSettlementProjection) (reserved : Bool) :
    List LedgerJournal :=
  if epsilon12 < |fill.feeAmount| ∧ feeCoveredByReservation fill projection reserved = false then
    journalsIn (resolvedFeeCurrency fill projection.baseCurrency projection.quoteCurrency)
      (fillFee fill)
  else []

def fillJournals (fill : FillEvent) (projection : FillSettlementProjection) (reserved : Bool) :
    List LedgerJournal :=
  spotJournals fill projection reserved ++
    (pnlJournals fill projection ++ feeJournals fill projection reserved)

section Fills

variable {ledger : Ledger} {journal : LedgerJournal} {fill : FillEvent}
  {projection : FillSettlementProjection} {reserved : Bool}

theorem postIn_eq_foldl (ledger : Ledger) (currency : Option String)
    (journal : String → LedgerJournal) :
    postIn ledger currency journal = (journalsIn currency journal).foldl postOnce ledger := by
  unfold postIn journalsIn
  cases currency.filter (· ≠ "") <;> rfl

theorem postFillEffects_eq_foldl (ledger : Ledger) (fill : FillEvent)
    (projection : FillSettlementProjection) (reserved : Bool) :
    postFillEffects ledger fill projection reserved =
      (fillJournals fill projection reserved).foldl postOnce ledger := by
  have hspot : postSpotLegs ledger fill projection reserved =
      (spotJournals fill projection reserved).foldl postOnce ledger := by
    unfold postSpotLegs spotJournals
    cases fill.productType with
    | derivatives => rfl
    | spot => cases fill.side <;> cases reserved <;> simp [postIn_eq_foldl]
  have hpnl : ∀ before, postRealizedPnl before fill projection =
      (pnlJournals fill projection).foldl postOnce before := by
    intro before
    unfold postRealizedPnl pnlJournals
    split
    · exact postIn_eq_foldl _ _ _
    · rfl
  have hfee : ∀ before, postFee before fill projection reserved =
      (feeJournals fill projection reserved).foldl postOnce before := by
    intro before
    unfold postFee feeJournals
    split
    · exact postIn_eq_foldl _ _ _
    · rfl
  unfold postFillEffects fillJournals
  rw [List.foldl_append, List.foldl_append, ← hspot, ← hpnl, ← hfee]

theorem mem_journalsIn {currency : Option String} {journals : String → LedgerJournal}
    (h : journal ∈ journalsIn currency journals) : ∃ name, journal = journals name := by
  obtain ⟨name, -, rfl⟩ := List.mem_map.mp h
  exact ⟨name, rfl⟩

/-- What is true of the journals of a fill in every currency is true of all of them. -/
theorem forall_mem_fillJournals {P : LedgerJournal → Prop}
    (hjournal : ∀ sourceType debited credited amount name,
      sourceType ∈ [.fillQuoteSpend, .fillAssetDelivery, .fillAssetReceipt, .fillQuoteProceeds,
        .fillRealizedPnl] →
      P (fillJournal fill sourceType debited credited amount name))
    (hfee : ∀ name, P (fillFee fill name)) :
    ∀ journal ∈ fillJournals fill projection reserved, P journal := by
  intro journal hmem
  unfold fillJournals spotJournals pnlJournals feeJournals at hmem
  rw [List.mem_append, List.mem_append] at hmem
  rcases hmem with hmem | hmem | hmem
  · split at hmem
    · cases hmem
    · rcases List.mem_append.mp hmem with hmem | hmem
      · split at hmem
        · cases hmem
        · obtain ⟨name, rfl⟩ := mem_journalsIn hmem
          exact hjournal _ _ _ _ _ (by simp)
      · obtain ⟨name, rfl⟩ := mem_journalsIn hmem
        exact hjournal _ _ _ _ _ (by simp)
    · rcases List.mem_append.mp hmem with hmem | hmem
      · split at hmem
        · cases hmem
        · obtain ⟨name, rfl⟩ := mem_journalsIn hmem
          exact hjournal _ _ _ _ _ (by simp)
      · obtain ⟨name, rfl⟩ := mem_journalsIn hmem
        exact hjournal _ _ _ _ _ (by simp)
  · split at hmem
    · obtain ⟨name, rfl⟩ := mem_journalsIn hmem
      unfold fillRealizedPnl
      split
      · exact hjournal _ _ _ _ _ (by simp)
      · exact hjournal _ _ _ _ _ (by simp)
    · cases hmem
  · split at hmem
    · obtain ⟨name, rfl⟩ := mem_journalsIn hmem
      exact hfee name
    · cases hmem

theorem Whole.foldl_postOnce {journals : List LedgerJournal}
    (hjournals : ∀ journal ∈ journals, journal.Balanced ∧ journal.Labelled)
    (h : Whole ledger) : Whole (journals.foldl Portfolio.postOnce ledger) := by
  induction journals generalizing ledger with
  | nil => exact h
  | cons journal journals ih =>
    obtain ⟨hbalanced, hlabelled⟩ := hjournals journal List.mem_cons_self
    exact ih (fun other hmem => hjournals other (List.mem_cons_of_mem _ hmem))
      (h.postOnce hbalanced hlabelled)

theorem Whole.postFillEffects (h : Whole ledger) :
    Whole (postFillEffects ledger fill projection reserved) := by
  rw [postFillEffects_eq_foldl]
  refine Whole.foldl_postOnce (forall_mem_fillJournals ?_ ?_) h
  · intro sourceType debited credited amount name hsource
    refine ⟨balanced_twoLegs _ _ _ _ rfl, ?_⟩
    -- none of these sources is of the mirror
    simp only [List.mem_cons, List.not_mem_nil, or_false] at hsource
    rcases hsource with rfl | rfl | rfl | rfl | rfl <;> trivial
  · intro name
    unfold fillFee
    split
    · exact ⟨balanced_twoLegs _ _ _ _ rfl, trivial⟩
    · exact ⟨balanced_twoLegs .fillFeeRebate .fillFee _ _ rfl, trivial⟩

theorem Whole.ensureInitialBalance (h : Whole ledger) (currency : String) (amount : ℚ)
    (productType : ProductType) (marginMode : MarginMode) :
    Whole (ensureInitialBalance ledger currency amount productType marginMode) := by
  unfold Portfolio.ensureInitialBalance
  split
  · exact h
  · exact h.postOnce (balanced_twoLegs _ _ _ _ rfl) trivial

end Fills

/-! ### Balanced runs -/

/-- A sync that goes through and consumes does not attribute the fee of a fill that was attributed
with the other sign: as an expense, or as an income. -/
def KeepsFeeSign (books : LedgerBooks) : LedgerCall → Prop
  | .syncObligation obligation (some fill) =>
    (books.syncObligation obligation (some fill)).toOption.isSome →
    epsilon12 < LedgerBooks.deltaConsumed (books.currentReservation obligation) obligation →
    epsilon12 < |reserveFee obligation fill| →
    ∀ journal ∈ books.ledger, journal.sourceType = .fillFeeAttribution →
      journal.sourceId = .fill fill.fillId obligation.reserveCurrency →
      journal.journalType =
        (feeAttribution obligation fill (reserveFee obligation fill)).journalType
  | _ => True

section Balanced

variable {books : LedgerBooks} {ledger : Ledger} {obligation : OrderObligation} {fill : FillEvent}
  {relatedFill : Option FillEvent}

theorem mem_of_mem_postJournal {journal posted : LedgerJournal}
    (h : posted ∈ postJournal ledger journal) (htype : posted.sourceType ≠ journal.sourceType) :
    posted ∈ ledger := by
  unfold postJournal at h
  split at h
  · obtain ⟨other, hother, rfl⟩ := List.mem_map.mp h
    split at htype
    · next hsame => exact absurd (decide_eq_true_iff.mp hsame).1 htype
    · next hne =>
      rw [if_neg hne]
      exact hother
  · rcases List.mem_append.mp h with h | h
    · exact h
    · exact absurd (congrArg LedgerJournal.sourceType (List.mem_singleton.mp h)) htype

theorem mem_of_mem_hold {amount : ℚ} {posted : LedgerJournal}
    (h : posted ∈ postReservationHold ledger obligation amount)
    (htype : posted.sourceType ≠ .reservation) : posted ∈ ledger := by
  unfold postReservationHold at h
  split at h
  · exact h
  · exact mem_of_mem_postJournal h htype

theorem Whole.ensureReservation (h : Whole books.ledger) {opened : LedgerBooks}
    {record : Option ReservationRecord}
    (hopened : books.ensureReservation obligation = (opened, record)) :
    Whole opened.ledger ∧ ∀ posted ∈ opened.ledger, posted.sourceType = .fillFeeAttribution →
      posted ∈ books.ledger := by
  rcases books.ensureReservation_cases obligation with
    ⟨found, -, he⟩ | ⟨-, -, he⟩ | ⟨-, -, he⟩
  · rw [he] at hopened
    obtain ⟨rfl, -⟩ := Prod.mk.inj hopened
    exact ⟨h, fun _ hmem _ => hmem⟩
  · rw [he] at hopened
    obtain ⟨rfl, -⟩ := Prod.mk.inj hopened
    exact ⟨h, fun _ hmem _ => hmem⟩
  · rw [he] at hopened
    obtain ⟨rfl, -⟩ := Prod.mk.inj hopened
    refine ⟨h.hold _, fun posted hmem htype => mem_of_mem_hold hmem ?_⟩
    rw [htype]
    decide

theorem Whole.sync (h : Whole books.ledger)
    (hok : KeepsFeeSign books (.syncObligation obligation relatedFill)) {next : LedgerBooks}
    (hsync : books.syncObligation obligation relatedFill = .ok next) : Whole next.ledger := by
  rcases LedgerBooks.syncObligation_cases hsync with
    ⟨-, rfl⟩ | ⟨opened, record, row, hopened, -, rfl⟩
  · exact h
  · obtain ⟨hwhole, hfees⟩ := h.ensureReservation hopened
    obtain ⟨hcurrent, -⟩ := LedgerBooks.ensureReservation_some hopened
    apply Whole.release
    cases relatedFill with
    | none => exact hwhole
    | some fill =>
      simp only [consumptionPosted]
      split
      · exact hwhole
      · next hbig =>
        apply hwhole.settlement _ |>.attribution
        intro hfee posted hmem htype hid
        have hold : posted ∈ opened.ledger := by
          refine mem_of_mem_postJournal hmem ?_
          rw [htype]
          exact SourceType.noConfusion
        rw [hcurrent] at hbig
        exact hok (by rw [hsync]; rfl) (not_le.mp hbig) hfee posted (hfees posted hold htype) htype
          hid

theorem Whole.perform (h : Whole books.ledger) {call : LedgerCall}
    (hok : KeepsFeeSign books call) : Whole (books.perform call).ledger := by
  cases call with
  | ensureInitialBalance currency amount productType marginMode =>
    exact h.ensureInitialBalance _ _ _ _
  | postFillEffects fill projection => exact h.postFillEffects
  | syncObligation obligation relatedFill =>
    simp only [LedgerBooks.perform]
    split
    · next next hsync => exact h.sync hok hsync
    · exact h

end Balanced

/-! ### What stays -/

section Frame

variable {books : LedgerBooks} {ledger : Ledger} {sourceType : SourceType} {sourceId : SourceId}

theorem hasSource_postOnce_of {journal : LedgerJournal}
    (h : hasSource ledger sourceType sourceId = true) :
    hasSource (postOnce ledger journal) sourceType sourceId = true := by
  unfold postOnce
  split
  · exact h
  · unfold hasSource at h ⊢
    rw [List.any_append, h, Bool.true_or]

theorem hasSource_postOnce_self (ledger : Ledger) (journal : LedgerJournal) :
    hasSource (postOnce ledger journal) journal.sourceType journal.sourceId = true := by
  unfold postOnce
  split
  · next h => exact h
  · simp [hasSource]

theorem hasSource_foldl_of {journals : List LedgerJournal}
    (h : hasSource ledger sourceType sourceId = true) :
    hasSource (journals.foldl postOnce ledger) sourceType sourceId = true := by
  induction journals generalizing ledger with
  | nil => exact h
  | cons journal journals ih => exact ih (hasSource_postOnce_of h)

theorem hasSource_foldl_mem {journals : List LedgerJournal} {journal : LedgerJournal}
    (h : journal ∈ journals) :
    hasSource (journals.foldl postOnce ledger) journal.sourceType journal.sourceId = true := by
  induction journals generalizing ledger with
  | nil => cases h
  | cons first journals ih =>
    rcases List.mem_cons.mp h with rfl | h
    · rw [List.foldl_cons]
      exact hasSource_foldl_of (hasSource_postOnce_self ledger journal)
    · exact ih h

theorem foldl_postOnce_of_hasSource {journals : List LedgerJournal}
    (h : ∀ journal ∈ journals,
      hasSource ledger journal.sourceType journal.sourceId = true) :
    journals.foldl postOnce ledger = ledger := by
  induction journals with
  | nil => rfl
  | cons journal journals ih =>
    have hfirst : postOnce ledger journal = ledger := if_pos (h journal List.mem_cons_self)
    rw [List.foldl_cons, hfirst]
    exact ih (fun other hmem => h other (List.mem_cons_of_mem _ hmem))

theorem hasSource_perform {call : LedgerCall}
    (h : hasSource books.ledger sourceType sourceId = true) :
    hasSource (books.perform call).ledger sourceType sourceId = true := by
  cases call with
  | ensureInitialBalance currency amount productType marginMode =>
    simp only [LedgerBooks.perform, ensureInitialBalance]
    split
    · exact h
    · exact hasSource_postOnce_of h
  | postFillEffects fill projection =>
    simp only [LedgerBooks.perform, postFillEffects_eq_foldl]
    exact hasSource_foldl_of h
  | syncObligation obligation relatedFill =>
    simp only [LedgerBooks.perform]
    split
    · next next hsync =>
      rcases LedgerBooks.syncObligation_cases hsync with
        ⟨-, rfl⟩ | ⟨opened, record, row, hopened, -, rfl⟩
      · exact h
      · apply hasSource_release_of
        apply hasSource_consumption_of
        rcases books.ensureReservation_cases obligation with
          ⟨found, -, he⟩ | ⟨-, -, he⟩ | ⟨-, -, he⟩
        · rw [he] at hopened
          obtain ⟨rfl, -⟩ := Prod.mk.inj hopened
          exact h
        · rw [he] at hopened
          cases (Prod.mk.inj hopened).2
        · rw [he] at hopened
          obtain ⟨rfl, -⟩ := Prod.mk.inj hopened
          exact hasSource_hold_of h
    · exact h

def LedgerCall.syncs : LedgerCall → Option String
  | .syncObligation obligation _ => some obligation.clientOrderId
  | _ => none

theorem reservation_perform (books : LedgerBooks) (call : LedgerCall) (orderId : String) :
    (call.syncs ≠ some orderId →
      (books.perform call).reservation orderId = books.reservation orderId) ∧
    ((books.reservation orderId).isSome →
      ((books.perform call).reservation orderId).isSome) := by
  cases call with
  | ensureInitialBalance currency amount productType marginMode => exact ⟨fun _ => rfl, id⟩
  | postFillEffects fill projection => exact ⟨fun _ => rfl, id⟩
  | syncObligation obligation relatedFill =>
    simp only [LedgerBooks.perform]
    split
    · next next hsync =>
      rcases LedgerBooks.syncObligation_cases hsync with
        ⟨-, rfl⟩ | ⟨opened, record, row, hopened, -, rfl⟩
      · exact ⟨fun _ => rfl, id⟩
      · have hlookup := LedgerBooks.lookup_synced hopened row orderId
        unfold LedgerBooks.reservation at hlookup ⊢
        simp only [hlookup]
        split
        · next heq =>
          refine ⟨?_, fun _ => rfl⟩
          intro hother
          exact absurd (congrArg some heq.symm) hother
        · exact ⟨fun _ => rfl, id⟩
    · exact ⟨fun _ => rfl, id⟩

def RowsApart (books : LedgerBooks) : Prop := (books.reservations.map (·.orderId)).Nodup

theorem RowsApart.ensureReservation {books opened : LedgerBooks} (h : RowsApart books)
    {obligation : OrderObligation} {record : Option ReservationRecord}
    (hopened : books.ensureReservation obligation = (opened, record)) : RowsApart opened := by
  rcases books.ensureReservation_cases obligation with
    ⟨found, -, he⟩ | ⟨-, -, he⟩ | ⟨hnone, -, he⟩
  · rw [he] at hopened
    obtain ⟨rfl, -⟩ := Prod.mk.inj hopened
    exact h
  · rw [he] at hopened
    obtain ⟨rfl, -⟩ := Prod.mk.inj hopened
    exact h
  · rw [he] at hopened
    obtain ⟨rfl, -⟩ := Prod.mk.inj hopened
    unfold RowsApart
    rw [List.map_append, List.nodup_append]
    refine ⟨h, by simp, ?_⟩
    rintro id hid other hother rfl
    obtain ⟨found, hfound, rfl⟩ := List.mem_map.mp hid
    rw [List.map_singleton, List.mem_singleton] at hother
    exact KeyedList.lookup_eq_none.mp hnone found hfound hother

theorem RowsApart.perform {books : LedgerBooks} (h : RowsApart books) (call : LedgerCall) :
    RowsApart (books.perform call) := by
  cases call with
  | ensureInitialBalance currency amount productType marginMode => exact h
  | postFillEffects fill projection => exact h
  | syncObligation obligation relatedFill =>
    simp only [LedgerBooks.perform]
    split
    · next next hsync =>
      rcases LedgerBooks.syncObligation_cases hsync with
        ⟨-, rfl⟩ | ⟨opened, record, row, hopened, -, rfl⟩
      · exact h
      · unfold RowsApart
        rw [KeyedList.keys_replace]
        exact h.ensureReservation hopened
    · exact h

theorem RowsApart.reservationId_perform {books : LedgerBooks} (h : RowsApart books)
    {record : ReservationRecord} (hmem : record ∈ books.reservations) (call : LedgerCall) :
    ∃ kept ∈ (books.perform call).reservations, kept.reservationId = record.reservationId := by
  cases call with
  | ensureInitialBalance currency amount productType marginMode => exact ⟨record, hmem, rfl⟩
  | postFillEffects fill projection => exact ⟨record, hmem, rfl⟩
  | syncObligation obligation relatedFill =>
    simp only [LedgerBooks.perform]
    split
    · next next hsync =>
      rcases LedgerBooks.syncObligation_cases hsync with
        ⟨-, rfl⟩ | ⟨opened, own, row, hopened, -, rfl⟩
      · exact ⟨record, hmem, rfl⟩
      · obtain ⟨-, -, hown, -, hkept, -⟩ := LedgerBooks.ensureReservation_some hopened
        have hmem' := hkept record hmem
        by_cases heq : record.orderId = own.orderId
        · have hsame : record = own :=
            List.inj_on_of_nodup_map (h.ensureReservation hopened) hmem'
              (KeyedList.mem_of_lookup hown) heq
          refine ⟨{ own with row := row }, ?_, by rw [hsame]⟩
          exact List.mem_map.mpr ⟨record, hmem', if_pos heq⟩
        · exact ⟨record, List.mem_map.mpr ⟨record, hmem', if_neg heq⟩, rfl⟩
    · exact ⟨record, hmem, rfl⟩

end Frame

/-! ### Repeated calls -/

/-- The projection of a repeated posting: it has the currencies of the first one, and no realized
PnL where the first one had none. -/
structure Repeats (first again : FillSettlementProjection) : Prop where
  baseCurrency : again.baseCurrency = first.baseCurrency
  quoteCurrency : again.quoteCurrency = first.quoteCurrency
  realizedPnl : epsilon12 < |again.realizedPnlDelta| → epsilon12 < |first.realizedPnlDelta|

section Repeated

variable {books : LedgerBooks} {fill : FillEvent} {first again : FillSettlementProjection}

/-- A repeat posts under the sources of the first posting, also if the order has been given a
reservation row since. -/
theorem fillJournals_repeated (h : Repeats first again) {reserved later : Bool}
    (hreserved : reserved = true → later = true) {journal : LedgerJournal}
    (hmem : journal ∈ fillJournals fill again later) :
    ∃ posted ∈ fillJournals fill first reserved, posted.sourceType = journal.sourceType ∧
      posted.sourceId = journal.sourceId := by
  unfold fillJournals at hmem ⊢
  rw [List.mem_append, List.mem_append] at hmem
  rcases hmem with hmem | hmem | hmem
  · -- fewer legs are posted with a row, and the others are the same
    refine ⟨journal, List.mem_append_left _ ?_, rfl, rfl⟩
    unfold spotJournals at hmem ⊢
    rw [h.baseCurrency, h.quoteCurrency] at hmem
    cases hp : fill.productType with
    | derivatives => simp [hp] at hmem
    | spot =>
      cases hs : fill.side <;> cases hr : reserved <;> cases hl : later <;>
        simp_all [journalsIn]
  · refine ⟨fillRealizedPnl fill first.realizedPnlDelta (first.quoteCurrency.getD ""), ?_, ?_⟩
    · apply List.mem_append_right
      apply List.mem_append_left
      unfold pnlJournals at hmem ⊢
      split at hmem
      · next hbig =>
        rw [if_pos (h.realizedPnl hbig)]
        rw [h.quoteCurrency] at hmem
        unfold journalsIn at hmem ⊢
        cases hq : first.quoteCurrency <;> simp_all
      · cases hmem
    · unfold pnlJournals at hmem
      split at hmem
      · rw [h.quoteCurrency] at hmem
        obtain ⟨name, hname, rfl⟩ := List.mem_map.mp hmem
        have hquote : first.quoteCurrency = some name := by
          have hfilter := Option.mem_toList.mp hname
          exact (Option.filter_eq_some_iff.mp hfilter).1
        rw [hquote, (journalOf_fillRealizedPnl _ _).sourceType_eq,
          (journalOf_fillRealizedPnl _ _).sourceType_eq,
          (journalOf_fillRealizedPnl _ _).sourceId_eq,
          (journalOf_fillRealizedPnl _ _).sourceId_eq]
        exact ⟨rfl, rfl⟩
      · cases hmem
  · refine ⟨journal, List.mem_append_right _ (List.mem_append_right _ ?_), rfl, rfl⟩
    unfold feeJournals at hmem ⊢
    rw [h.baseCurrency, h.quoteCurrency] at hmem
    split at hmem
    · next hfee =>
      have hcovered : feeCoveredByReservation fill first reserved = false := by
        have hlater := hfee.2
        unfold feeCoveredByReservation at hlater ⊢
        rw [h.baseCurrency, h.quoteCurrency] at hlater
        cases reserved with
        | false => simp
        | true =>
          rw [hreserved rfl] at hlater
          exact hlater
      rw [if_pos ⟨hfee.1, hcovered⟩]
      exact hmem
    · cases hmem

theorem hasSource_performAll {sourceType : SourceType} {sourceId : SourceId}
    {calls : List LedgerCall} (h : hasSource books.ledger sourceType sourceId = true) :
    hasSource (books.performAll calls).ledger sourceType sourceId = true := by
  induction calls generalizing books with
  | nil => exact h
  | cons call calls ih => exact ih (hasSource_perform h)

theorem isSome_reservation_performAll {orderId : String} {calls : List LedgerCall}
    (h : (books.reservation orderId).isSome) :
    ((books.performAll calls).reservation orderId).isSome := by
  induction calls generalizing books with
  | nil => exact h
  | cons call calls ih => exact ih ((reservation_perform books call orderId).2 h)

theorem postFillEffects_repeated (books : LedgerBooks) (fill : FillEvent)
    (h : Repeats first again) (calls : List LedgerCall) :
    (((books.perform (.postFillEffects fill first)).performAll calls).perform
      (.postFillEffects fill again)) =
      (books.perform (.postFillEffects fill first)).performAll calls := by
  have hreserved : (books.reservation fill.clientOrderId).isSome = true →
      (((books.perform (.postFillEffects fill first)).performAll calls).reservation
        fill.clientOrderId).isSome = true :=
    fun hsome => isSome_reservation_performAll
      ((reservation_perform books (.postFillEffects fill first) _).2 hsome)
  have hsources : ∀ journal ∈ fillJournals fill again
      (((books.perform (.postFillEffects fill first)).performAll calls).reservation
        fill.clientOrderId).isSome,
      hasSource ((books.perform (.postFillEffects fill first)).performAll calls).ledger
        journal.sourceType journal.sourceId = true := by
    intro journal hmem
    obtain ⟨posted, hposted, htype, hid⟩ := fillJournals_repeated h hreserved hmem
    rw [← htype, ← hid]
    apply hasSource_performAll
    simp only [LedgerBooks.perform, postFillEffects_eq_foldl]
    exact hasSource_foldl_mem hposted
  generalize (books.perform (.postFillEffects fill first)).performAll calls = later at *
  simp only [LedgerBooks.perform, postFillEffects_eq_foldl, foldl_postOnce_of_hasSource hsources]

/-- A sync of the obligation has nothing to do: its row id is taken by another order, its row is up
to date, or its row refuses it. -/
def UpToDate (books : LedgerBooks) (obligation : OrderObligation) : Prop :=
  (books.reservation obligation.clientOrderId = none ∧
    ∃ record ∈ books.reservations, record.reservationId = obligation.obligationId) ∨
  (∃ record, books.reservation obligation.clientOrderId = some record ∧
    syncRow record.row obligation = .ok record.row ∧
    LedgerBooks.deltaConsumed record obligation ≤ epsilon12 ∧
    LedgerBooks.deltaReleased record obligation ≤ epsilon12) ∨
  ∃ error, syncRow (books.currentReservation obligation).row obligation = .error error

variable {obligation : OrderObligation} {relatedFill : Option FillEvent}

theorem perform_sync_ok {next : LedgerBooks}
    (h : books.syncObligation obligation relatedFill = .ok next) :
    books.perform (.syncObligation obligation relatedFill) = next := by
  simp only [LedgerBooks.perform, h]

theorem perform_sync_error {error : SyncError}
    (h : books.syncObligation obligation relatedFill = .error error) :
    books.perform (.syncObligation obligation relatedFill) = books := by
  simp only [LedgerBooks.perform, h]

theorem syncRow_of_syncObligation_error {error : SyncError}
    (h : books.syncObligation obligation relatedFill = .error error) :
    ∃ error, syncRow (books.currentReservation obligation).row obligation = .error error := by
  unfold LedgerBooks.syncObligation at h
  split at h
  · cases h
  · next opened record hopened =>
    obtain ⟨rfl, -⟩ := LedgerBooks.ensureReservation_some hopened
    unfold LedgerBooks.syncRecord at h
    split at h
    · next rowError hrow => exact ⟨rowError, hrow⟩
    · rw [LedgerBooks.postDeltas_eq] at h
      cases h

theorem upToDate_perform (books : LedgerBooks) (obligation : OrderObligation)
    (relatedFill : Option FillEvent) :
    UpToDate (books.perform (.syncObligation obligation relatedFill)) obligation := by
  cases hsync : books.syncObligation obligation relatedFill with
  | error error =>
    rw [perform_sync_error hsync]
    exact .inr (.inr (syncRow_of_syncObligation_error hsync))
  | ok next =>
    rw [perform_sync_ok hsync]
    rcases LedgerBooks.syncObligation_cases hsync with
      ⟨hskipped, rfl⟩ | ⟨opened, record, row, hopened, hrow, rfl⟩
    · left
      rcases next.ensureReservation_cases obligation with
        ⟨found, -, he⟩ | ⟨hnone, htaken, -⟩ | ⟨-, -, he⟩
      · rw [he] at hskipped
        cases hskipped
      · exact ⟨hnone, htaken⟩
      · rw [he] at hskipped
        cases (Prod.mk.inj hskipped).2
    · obtain ⟨hagain, hconsumed, hreleased⟩ := syncRow_again hrow
      refine .inr (.inl ⟨{ record with row := row }, ?_, hagain, hconsumed, hreleased⟩)
      exact (LedgerBooks.lookup_synced hopened row _).trans (if_pos rfl)

theorem UpToDate.perform (h : UpToDate books obligation) (hrows : RowsApart books)
    {call : LedgerCall} (hother : call.syncs ≠ some obligation.clientOrderId) :
    UpToDate (books.perform call) obligation := by
  have hsame := (reservation_perform books call obligation.clientOrderId).1 hother
  unfold UpToDate LedgerBooks.currentReservation at h ⊢
  rw [hsame]
  rcases h with ⟨hnone, record, hmem, hid⟩ | h
  · obtain ⟨kept, hkept, hkeptId⟩ := hrows.reservationId_perform hmem call
    exact .inl ⟨hnone, kept, hkept, hkeptId.trans hid⟩
  · exact .inr h

theorem UpToDate.performAll (h : UpToDate books obligation) (hrows : RowsApart books)
    {calls : List LedgerCall} (hothers : ∀ call ∈ calls,
      call.syncs ≠ some obligation.clientOrderId) :
    UpToDate (books.performAll calls) obligation ∧ RowsApart (books.performAll calls) := by
  induction calls generalizing books with
  | nil => exact ⟨h, hrows⟩
  | cons call calls ih =>
    exact ih (h.perform hrows (hothers call List.mem_cons_self)) (hrows.perform call)
      (fun other hmem => hothers other (List.mem_cons_of_mem _ hmem))

theorem UpToDate.perform_sync (h : UpToDate books obligation) (hrows : RowsApart books)
    (relatedFill : Option FillEvent) :
    books.perform (.syncObligation obligation relatedFill) = books := by
  cases hsync : books.syncObligation obligation relatedFill with
  | error error => exact perform_sync_error hsync
  | ok next =>
    rw [perform_sync_ok hsync]
    rcases LedgerBooks.syncObligation_cases hsync with
      ⟨-, rfl⟩ | ⟨opened, record, row, hopened, hrow, rfl⟩
    · rfl
    · obtain ⟨hcurrent, -⟩ := LedgerBooks.ensureReservation_some hopened
      rcases h with ⟨hnone, other, hmem, hid⟩ | ⟨found, hfound, hagain, hconsumed, hreleased⟩ |
        ⟨error, herror⟩
      · -- the id is taken, so there was no row to sync
        rcases books.ensureReservation_cases obligation with
          ⟨found, hfound, -⟩ | ⟨-, -, he⟩ | ⟨-, hfresh, -⟩
        · rw [hnone] at hfound
          cases hfound
        · rw [he] at hopened
          cases (Prod.mk.inj hopened).2
        · exact absurd hid (hfresh other hmem)
      · have hrecord : record = found := by
          rw [hcurrent, LedgerBooks.currentReservation, hfound]
          rfl
        have hbooks : opened = books := by
          rcases books.ensureReservation_cases obligation with
            ⟨_, -, he⟩ | ⟨hnone, -, -⟩ | ⟨hnone, -, -⟩
          · rw [he] at hopened
            exact (Prod.mk.inj hopened).1.symm
          · rw [hfound] at hnone
            cases hnone
          · rw [hfound] at hnone
            cases hnone
        subst hrecord hbooks
        have hledger : ∀ ledger amount, amount ≤ epsilon12 →
            consumptionPosted ledger obligation amount relatedFill = ledger := by
          intro ledger amount hsmall
          cases relatedFill with
          | none => rfl
          | some fill => exact if_pos hsmall
        obtain rfl : row = record.row := Except.ok.inj (hrow.symm.trans hagain)
        rw [hledger _ _ hconsumed, postReservationRelease, if_pos hreleased,
          KeyedList.replace_self hrows (KeyedList.mem_of_lookup hfound)]
      · rw [← hcurrent, hrow] at herror
        cases herror

theorem syncObligation_repeated (hrows : RowsApart books) {calls : List LedgerCall}
    (hothers : ∀ call ∈ calls, call.syncs ≠ some obligation.clientOrderId)
    (relatedFill again : Option FillEvent) :
    ((books.perform (.syncObligation obligation relatedFill)).performAll calls).perform
      (.syncObligation obligation again) =
      (books.perform (.syncObligation obligation relatedFill)).performAll calls := by
  obtain ⟨hupToDate, hrows'⟩ := (upToDate_perform books obligation relatedFill).performAll
    (hrows.perform _) hothers
  exact hupToDate.perform_sync hrows' again

end Repeated

/-! ### Whole runs -/

def ledgerStep (books : LedgerBooks) (call : LedgerCall) : Option LedgerBooks :=
  some (books.perform call)

theorem run_ledgerStep (books : LedgerBooks) (calls : List LedgerCall) :
    Runs.run ledgerStep books calls = some (books.performAll calls) := by
  induction calls generalizing books with
  | nil => rfl
  | cons call calls ih => exact ih (books.perform call)

theorem rowsApart_performAll (calls : List LedgerCall) :
    RowsApart (LedgerBooks.performAll {} calls) := by
  refine Runs.run_invariant ?_ (show RowsApart {} by simp [RowsApart]) (run_ledgerStep {} calls)
  rintro books call next hrows hstep
  obtain rfl := Option.some.inj hstep
  exact hrows.perform call

/-- **Double entry.**  The journals are balanced, and the balances of a currency add up to zero,
after all calls that attribute the fee of a fill with one sign. Posting a fill again, or syncing
an obligation again that was not synced since, changes nothing after any calls. -/
theorem double_entry (calls : List LedgerCall) :
    (Runs.Meets ledgerStep KeepsFeeSign {} calls →
      (∀ journal ∈ (LedgerBooks.performAll {} calls).ledger, journal.Balanced) ∧
      ∀ currency, totalBalance (LedgerBooks.performAll {} calls).ledger currency = 0) ∧
    (∀ fill first again later, Repeats first again →
      LedgerBooks.performAll {} (calls ++ .postFillEffects fill first ::
          (later ++ [.postFillEffects fill again])) =
        LedgerBooks.performAll {} (calls ++ .postFillEffects fill first :: later)) ∧
    ∀ obligation relatedFill again later,
      (∀ call ∈ later, call.syncs ≠ some obligation.clientOrderId) →
      LedgerBooks.performAll {} (calls ++ .syncObligation obligation relatedFill ::
          (later ++ [.syncObligation obligation again])) =
        LedgerBooks.performAll {} (calls ++ .syncObligation obligation relatedFill :: later) := by
  refine ⟨?_, ?_, ?_⟩
  · intro hmeets
    have hwhole : Whole (LedgerBooks.performAll {} calls).ledger := by
      refine Runs.run_invariant_of_meets (I := fun books => Whole books.ledger) ?_ ?_ hmeets
        (run_ledgerStep {} calls)
      · rintro books call next hwhole hok hstep
        obtain rfl := Option.some.inj hstep
        exact hwhole.perform hok
      · intro journal hmem
        cases hmem
    have hbalanced := fun journal hmem => (hwhole journal hmem).1
    exact ⟨hbalanced, totalBalance_eq_zero hbalanced⟩
  · intro fill first again later hrepeats
    have hrepeated :=
      postFillEffects_repeated (LedgerBooks.performAll {} calls) fill hrepeats later
    simpa [LedgerBooks.performAll] using hrepeated
  · intro obligation relatedFill again later hothers
    have hrepeated := syncObligation_repeated (rowsApart_performAll calls) hothers relatedFill
      again
    simpa [LedgerBooks.performAll] using hrepeated

instance (books : LedgerBooks) (call : LedgerCall) : Decidable (KeepsFeeSign books call) :=
  match call with
  | .ensureInitialBalance _ _ _ _ => .isTrue trivial
  | .postFillEffects _ _ => .isTrue trivial
  | .syncObligation _ none => .isTrue trivial
  | .syncObligation obligation (some fill) =>
    inferInstanceAs (Decidable
      ((books.syncObligation obligation (some fill)).toOption.isSome → _ → _ → _))

/-- A fill of one coin at 50 USDT with a fee in USDT. -/
def tradeFill (orderId symbol : String) (feeAmount : ℚ) : FillEvent :=
  { fillId := "trade-1001", clientOrderId := orderId, symbol := symbol, side := .buy, fillQty := 1,
    fillPrice := 50, feeAmount := feeAmount, feeCurrency := some "USDT" }

/-- A reserve of 100 USDT with some of it consumed. -/
def consumedOrder (orderId : String) (consumedAmount : ℚ) : OrderObligation :=
  { hundredReserved with
    obligationId := "obligation-" ++ orderId
    clientOrderId := orderId
    consumedAmount := consumedAmount }

def buyProjection : FillSettlementProjection :=
  { baseCurrency := some "BTC", quoteCurrency := some "USDT", startingQuantity := 0,
    endingQuantity := 1, realizedPnlDelta := 0, feeDelta := 1 }

/-- A reserve, a fill of it that pays a fee, and its posting. -/
def oneTrade : List LedgerCall :=
  [.ensureInitialBalance "USDT" 1000 .spot .cash, .syncObligation (consumedOrder "btc" 0) none,
    .syncObligation (consumedOrder "btc" 51) (some (tradeFill "btc" "BTC-USDT" 1)),
    .postFillEffects (tradeFill "btc" "BTC-USDT" 1) buyProjection]

/-- A fill of another instrument that has the same trade id and is paid a rebate. -/
def twoInstruments : List LedgerCall :=
  oneTrade ++
    [.syncObligation (consumedOrder "eth" 49) (some (tradeFill "eth" "ETH-USDT" (-1)))]

theorem double_entry_oneTrade :
    Runs.Meets ledgerStep KeepsFeeSign {} oneTrade ∧
    (LedgerBooks.performAll {} oneTrade).ledger.length = 5 ∧
    totalBalance (LedgerBooks.performAll {} oneTrade).ledger "USDT" = 0 ∧
    LedgerBooks.performAll {} (oneTrade ++
        [.postFillEffects (tradeFill "btc" "BTC-USDT" 1) buyProjection,
          .postFillEffects (tradeFill "btc" "BTC-USDT" 1) buyProjection]) =
      LedgerBooks.performAll {} (oneTrade ++
        [.postFillEffects (tradeFill "btc" "BTC-USDT" 1) buyProjection]) := by
  have hmeets : Runs.Meets ledgerStep KeepsFeeSign {} oneTrade := by decide +kernel
  obtain ⟨hbalanced, hrepeated, -⟩ := double_entry oneTrade
  refine ⟨hmeets, by decide +kernel, (hbalanced hmeets).2 "USDT", ?_⟩
  exact hrepeated _ buyProjection buyProjection [] ⟨rfl, rfl, id⟩

theorem rebate_unbalances_fee :
    ¬ ∀ calls : List LedgerCall,
      (∀ journal ∈ (LedgerBooks.performAll {} calls).ledger, journal.Balanced) ∧
      ∀ currency, totalBalance (LedgerBooks.performAll {} calls).ledger currency = 0 := by
  intro hclaim
  have hzero := (hclaim twoInstruments).2 "USDT"
  have hrebate : totalBalance (LedgerBooks.performAll {} twoInstruments).ledger "USDT" = -1 := by
    decide +kernel
  rw [hrebate] at hzero
  norm_num at hzero

end Aats.Portfolio
