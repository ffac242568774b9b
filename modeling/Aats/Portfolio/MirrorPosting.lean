import Aats.Execution.ReservationMirror
import Aats.Lib.KeyedList
import Aats.Portfolio.SettlementPosting

/-!
# The journals of the reservation mirror

`services/ledger/posting.py`: beside the reservation row, `sync_obligation` posts what it does to
the row. A new row holds its amount in `cash_reserved`, a consumption goes from there to
`external_clearing` and a release goes back to `cash_available`. A consumption is posted under
the id of one fill, and the fee of that fill is attributed beside it.

`_post_journal` inserts a journal and its entries and ignores what is there already: the id of an
entry is made of the journal and a label, and no two accounts of a journal have the same label.
So a second journal of one source adds only the entries with a label that the first one lacks.

## Main definitions
* `postJournal` — `_post_journal`.
* `LedgerBooks.syncObligation` — `sync_obligation`.
-/

namespace Aats.Portfolio

open Execution

/-! ### Rows and journals -/

/-- A row of `reservations` with its keys. -/
structure ReservationRecord where
  reservationId : String
  orderId : String
  account : LedgerAccount
  row : ReservationRow
  deriving DecidableEq

/-- What the mirror service writes: the reservation rows and the ledger. -/
structure LedgerBooks where
  reservations : List ReservationRecord := []
  ledger : Ledger := []
  deriving DecidableEq

/-- The journal with the entries whose label it lacks. The label of an entry stands for the type
of its account. -/
def LedgerJournal.addEntries (journal : LedgerJournal) (entries : List LedgerEntry) :
    LedgerJournal :=
  { journal with
    entries := journal.entries ++ entries.filter (fun entry =>
      journal.entries.all (fun posted => posted.account.accountType ≠ entry.account.accountType)) }

def LedgerJournal.sameSource (journal posted : LedgerJournal) : Bool :=
  posted.sourceType = journal.sourceType ∧ posted.sourceId = journal.sourceId

/-- `_post_journal`: journals and entries that exist are left alone. -/
def postJournal (ledger : Ledger) (journal : LedgerJournal) : Ledger :=
  if hasSource ledger journal.sourceType journal.sourceId then
    ledger.map (fun posted =>
      if journal.sameSource posted then posted.addEntries journal.entries else posted)
  else ledger ++ [journal]

/-! ### What the mirror posts -/

def obligationAccount (obligation : OrderObligation) (accountType : AccountType) :
    LedgerAccount where
  accountType := accountType
  currency := obligation.reserveCurrency
  productType := obligation.productType
  marginMode := obligation.marginMode

def postReservationHold (ledger : Ledger) (obligation : OrderObligation) (amount : ℚ) : Ledger :=
  if amount ≤ epsilon12 then ledger
  else
    postJournal ledger (twoLegs .reservationHold .reservation
      (.hold obligation.obligationId obligation.reservedAmount)
      (obligationAccount obligation .cashReserved) (obligationAccount obligation .cashAvailable)
      amount)

def postReservationRelease (ledger : Ledger) (obligation : OrderObligation) (amount : ℚ) : Ledger :=
  if amount ≤ epsilon12 then ledger
  else
    postJournal ledger (twoLegs (.ofSource .reservationRelease) .reservationRelease
      (.release obligation.obligationId obligation.releasedAmount)
      (obligationAccount obligation .cashAvailable) (obligationAccount obligation .cashReserved)
      amount)

/-- `fee_delta_in_reserve`, once the fee is known to be paid in the reserve currency; zero where
the reserve is neither currency of the symbol. -/
def feeDeltaInReserve (obligation : OrderObligation) (fill : FillEvent) :
    Except UnsupportedFeeCurrencyError ℚ :=
  let currencies := resolveSymbolCurrencies fill.symbol
  if some obligation.reserveCurrency = currencies.2 then
    fillFeeDeltaInQuote fill currencies.1 currencies.2
  else if some obligation.reserveCurrency = currencies.1 then .ok fill.feeAmount
  else .ok 0

def feeAttribution (obligation : OrderObligation) (fill : FillEvent) (feeDelta : ℚ) :
    LedgerJournal :=
  if 0 < feeDelta then
    twoLegs .fillFeeExpense .fillFeeAttribution (.fill fill.fillId obligation.reserveCurrency)
      (obligationAccount obligation .feeExpense) (obligationAccount obligation .externalClearing)
      |feeDelta|
  else
    twoLegs .fillFeeIncome .fillFeeAttribution (.fill fill.fillId obligation.reserveCurrency)
      (obligationAccount obligation .externalClearing) (obligationAccount obligation .feeIncome)
      |feeDelta|

/-- `_post_reservation_backed_spot_fee_attribution`. -/
def postFeeAttribution (ledger : Ledger) (obligation : OrderObligation) (fill : FillEvent) :
    Except UnsupportedFeeCurrencyError Ledger :=
  let currencies := resolveSymbolCurrencies fill.symbol
  if obligation.productType ≠ .spot then .ok ledger
  else if resolvedFeeCurrency fill currencies.1 currencies.2 ≠ some obligation.reserveCurrency then
    .ok ledger
  else if |fill.feeAmount| ≤ epsilon12 then .ok ledger
  else
    match feeDeltaInReserve obligation fill with
    | .error e => .error e
    | .ok feeDelta =>
      if |feeDelta| ≤ epsilon12 then .ok ledger
      else .ok (postJournal ledger (feeAttribution obligation fill feeDelta))

def fillSettlement (obligation : OrderObligation) (fill : FillEvent) (amount : ℚ) : LedgerJournal :=
  twoLegs (.ofSource .fillSettlement) .fillSettlement (.settlement fill.fillId)
    (obligationAccount obligation .externalClearing) (obligationAccount obligation .cashReserved)
    amount

def postFillSettlement (ledger : Ledger) (obligation : OrderObligation) (fill : FillEvent)
    (amount : ℚ) : Except UnsupportedFeeCurrencyError Ledger :=
  if amount ≤ epsilon12 then .ok ledger
  else
    postFeeAttribution (postJournal ledger (fillSettlement obligation fill amount)) obligation fill

/-! ### Syncing -/

inductive SyncError
  | reservation (error : ReservationError)
  | feeCurrency (error : UnsupportedFeeCurrencyError)
  deriving DecidableEq

namespace LedgerBooks

/-- `get_by_order_id_in_session`. -/
def reservation (books : LedgerBooks) (orderId : String) : Option ReservationRecord :=
  KeyedList.lookup ReservationRecord.orderId books.reservations orderId

/-- The row that `create_reservation_in_session` inserts. -/
def newReservation (obligation : OrderObligation) : ReservationRecord where
  reservationId := obligation.obligationId
  orderId := obligation.clientOrderId
  account := obligationAccount obligation .cashReserved
  row := { reservedAmount := obligation.reservedAmount }

/-- The first part of a sync: the row of the order, created and held if there is none. The insert
is ignored where another order has a row under the same id. -/
def ensureReservation (books : LedgerBooks) (obligation : OrderObligation) :
    LedgerBooks × Option ReservationRecord :=
  match books.reservation obligation.clientOrderId with
  | some record => (books, some record)
  | none =>
    if books.reservations.any (·.reservationId = obligation.obligationId) then (books, none)
    else
      ({ reservations := books.reservations ++ [newReservation obligation]
         ledger := postReservationHold books.ledger obligation obligation.reservedAmount },
       some (newReservation obligation))

def currentReservation (books : LedgerBooks) (obligation : OrderObligation) : ReservationRecord :=
  (books.reservation obligation.clientOrderId).getD (newReservation obligation)

def deltaConsumed (record : ReservationRecord) (obligation : OrderObligation) : ℚ :=
  max (obligation.consumedAmount - record.row.consumedAmount) 0

def deltaReleased (record : ReservationRecord) (obligation : OrderObligation) : ℚ :=
  max (obligation.releasedAmount - record.row.releasedAmount) 0

/-- What the second part of a sync posts: a consumption only with a fill to post it under. -/
def postDeltas (ledger : Ledger) (record : ReservationRecord) (obligation : OrderObligation)
    (relatedFill : Option FillEvent) : Except UnsupportedFeeCurrencyError Ledger :=
  match relatedFill with
  | none => .ok (postReservationRelease ledger obligation (deltaReleased record obligation))
  | some fill =>
    match postFillSettlement ledger obligation fill (deltaConsumed record obligation) with
    | .error e => .error e
    | .ok settled => .ok (postReservationRelease settled obligation (deltaReleased record obligation))

def syncRecord (books : LedgerBooks) (record : ReservationRecord) (obligation : OrderObligation)
    (relatedFill : Option FillEvent) : Except SyncError LedgerBooks :=
  match syncRow record.row obligation with
  | .error e => .error (.reservation e)
  | .ok row =>
    match postDeltas books.ledger record obligation relatedFill with
    | .error e => .error (.feeCurrency e)
    | .ok ledger =>
      .ok
        { reservations := KeyedList.replace ReservationRecord.orderId books.reservations
            { record with row := row }
          ledger := ledger }

/-- `sync_obligation`. A raise leaves the session before its commit, so nothing of it is kept. -/
def syncObligation (books : LedgerBooks) (obligation : OrderObligation)
    (relatedFill : Option FillEvent) : Except SyncError LedgerBooks :=
  match books.ensureReservation obligation with
  | (books, none) => .ok books
  | (books, some record) => books.syncRecord record obligation relatedFill

end LedgerBooks

/-! ### What is attributed -/

/-- The fee of a fill that a spot reserve pays: the fee, if it is in the reserve currency and this
is a currency of the symbol. -/
def reserveFee (obligation : OrderObligation) (fill : FillEvent) : ℚ :=
  let currencies := resolveSymbolCurrencies fill.symbol
  if obligation.productType = .spot ∧
      resolvedFeeCurrency fill currencies.1 currencies.2 = some obligation.reserveCurrency ∧
      (some obligation.reserveCurrency = currencies.2 ∨
        some obligation.reserveCurrency = currencies.1) then
    fill.feeAmount
  else 0

/-- The ledger with the fee of a fill attributed, unless it is within the tolerance. -/
def feeAttributed (ledger : Ledger) (obligation : OrderObligation) (fill : FillEvent) : Ledger :=
  if |reserveFee obligation fill| ≤ epsilon12 then ledger
  else postJournal ledger (feeAttribution obligation fill (reserveFee obligation fill))

theorem feeDeltaInReserve_eq {obligation : OrderObligation} {fill : FillEvent}
    (hcurrency : resolvedFeeCurrency fill (resolveSymbolCurrencies fill.symbol).1
      (resolveSymbolCurrencies fill.symbol).2 = some obligation.reserveCurrency)
    (hfee : fill.feeAmount ≠ 0) :
    feeDeltaInReserve obligation fill =
      .ok (if some obligation.reserveCurrency = (resolveSymbolCurrencies fill.symbol).2 ∨
        some obligation.reserveCurrency = (resolveSymbolCurrencies fill.symbol).1 then
          fill.feeAmount else 0) := by
  unfold feeDeltaInReserve
  by_cases hquote : some obligation.reserveCurrency = (resolveSymbolCurrencies fill.symbol).2
  · simp [fillFeeDeltaInQuote, ← hquote, hfee] at hcurrency ⊢
    simp [hcurrency]
  · by_cases hbase : some obligation.reserveCurrency = (resolveSymbolCurrencies fill.symbol).1
    · rw [if_neg hquote, if_pos hbase, if_pos (.inr hbase)]
    · rw [if_neg hquote, if_neg hbase, if_neg (not_or.mpr ⟨hquote, hbase⟩)]

theorem postFeeAttribution_eq (ledger : Ledger) (obligation : OrderObligation) (fill : FillEvent) :
    postFeeAttribution ledger obligation fill = .ok (feeAttributed ledger obligation fill) := by
  have hzero : |(0 : ℚ)| ≤ epsilon12 := by simpa using epsilon12_pos.le
  unfold postFeeAttribution feeAttributed
  by_cases hspot : obligation.productType = .spot
  · by_cases hcurrency : resolvedFeeCurrency fill (resolveSymbolCurrencies fill.symbol).1
        (resolveSymbolCurrencies fill.symbol).2 = some obligation.reserveCurrency
    · by_cases hsmall : |fill.feeAmount| ≤ epsilon12
      · have hfee : |reserveFee obligation fill| ≤ epsilon12 := by
          unfold reserveFee
          extract_lets
          split
          · exact hsmall
          · exact hzero
        simp [hspot, hcurrency, hsmall, hfee]
      · have hne : fill.feeAmount ≠ 0 := by
          intro h
          exact hsmall (h ▸ hzero)
        have hdelta := feeDeltaInReserve_eq hcurrency hne
        have hfee : reserveFee obligation fill =
            if some obligation.reserveCurrency = (resolveSymbolCurrencies fill.symbol).2 ∨
              some obligation.reserveCurrency = (resolveSymbolCurrencies fill.symbol).1 then
                fill.feeAmount else 0 := by
          simp [reserveFee, hspot, hcurrency]
        rw [← hfee] at hdelta
        simp only [hspot, hcurrency, hsmall, hdelta, ne_eq, not_true_eq_false, if_false]
        split <;> rfl
    · have hfee : reserveFee obligation fill = 0 := by simp [reserveFee, hcurrency]
      rw [hfee, if_pos hzero]
      simp [hspot, hcurrency]
  · have hfee : reserveFee obligation fill = 0 := by simp [reserveFee, hspot]
    rw [hfee, if_pos hzero]
    simp [hspot]

/-! ### What a sync can do -/

def consumptionPosted (ledger : Ledger) (obligation : OrderObligation) (amount : ℚ) :
    Option FillEvent → Ledger
  | none => ledger
  | some fill =>
    if amount ≤ epsilon12 then ledger
    else feeAttributed (postJournal ledger (fillSettlement obligation fill amount)) obligation fill

namespace LedgerBooks

theorem postDeltas_eq (ledger : Ledger) (record : ReservationRecord) (obligation : OrderObligation)
    (relatedFill : Option FillEvent) :
    postDeltas ledger record obligation relatedFill =
      .ok (postReservationRelease
        (consumptionPosted ledger obligation (deltaConsumed record obligation) relatedFill)
        obligation (deltaReleased record obligation)) := by
  unfold postDeltas consumptionPosted
  cases relatedFill with
  | none => rfl
  | some fill =>
    simp only [postFillSettlement, postFeeAttribution_eq]
    split <;> split <;> simp_all

theorem ensureReservation_cases (books : LedgerBooks) (obligation : OrderObligation) :
    (∃ record, books.reservation obligation.clientOrderId = some record ∧
      books.ensureReservation obligation = (books, some record)) ∨
    (books.reservation obligation.clientOrderId = none ∧
      (∃ record ∈ books.reservations, record.reservationId = obligation.obligationId) ∧
      books.ensureReservation obligation = (books, none)) ∨
    (books.reservation obligation.clientOrderId = none ∧
      (∀ record ∈ books.reservations, record.reservationId ≠ obligation.obligationId) ∧
      books.ensureReservation obligation =
        ({ reservations := books.reservations ++ [newReservation obligation]
           ledger := postReservationHold books.ledger obligation obligation.reservedAmount },
         some (newReservation obligation))) := by
  unfold ensureReservation
  cases hrow : books.reservation obligation.clientOrderId with
  | some record => exact .inl ⟨record, rfl, rfl⟩
  | none =>
    right
    by_cases htaken : books.reservations.any (·.reservationId = obligation.obligationId) = true
    · refine .inl ⟨rfl, by simpa using htaken, ?_⟩
      simp only [htaken, if_true]
    · refine .inr ⟨rfl, by simpa using htaken, ?_⟩
      simp only [htaken, if_false, Bool.false_eq_true]

theorem lookup_newReservation (obligation : OrderObligation) (orderId : String) :
    KeyedList.lookup ReservationRecord.orderId [newReservation obligation] orderId =
      if orderId = obligation.clientOrderId then some (newReservation obligation) else none := by
  unfold KeyedList.lookup newReservation
  by_cases h : obligation.clientOrderId = orderId
  · simp [h]
  · simp [h, Ne.symm h]

theorem ensureReservation_some {books opened : LedgerBooks} {obligation : OrderObligation}
    {record : ReservationRecord}
    (h : books.ensureReservation obligation = (opened, some record)) :
    record = books.currentReservation obligation ∧
    record.orderId = obligation.clientOrderId ∧
    opened.reservation obligation.clientOrderId = some record ∧
    (∀ orderId, orderId ≠ obligation.clientOrderId →
      opened.reservation orderId = books.reservation orderId) ∧
    (∀ other ∈ books.reservations, other ∈ opened.reservations) ∧
    ∀ other ∈ opened.reservations, other = newReservation obligation ∨
      other ∈ books.reservations := by
  rcases books.ensureReservation_cases obligation with
    ⟨found, hfound, he⟩ | ⟨-, -, he⟩ | ⟨hnone, -, he⟩
  · rw [he] at h
    obtain ⟨rfl, hrecord⟩ := Prod.mk.inj h
    obtain rfl := Option.some.inj hrecord
    have hcurrent : books.currentReservation obligation = found := by
      rw [currentReservation, hfound]
      rfl
    exact ⟨hcurrent.symm, KeyedList.key_of_lookup hfound, hfound, fun _ _ => rfl, fun _ hmem => hmem,
      fun _ hmem => .inr hmem⟩
  · rw [he] at h
    cases h
  · rw [he] at h
    obtain ⟨rfl, hrecord⟩ := Prod.mk.inj h
    obtain rfl := Option.some.inj hrecord
    have hcurrent : books.currentReservation obligation = newReservation obligation := by
      rw [currentReservation, hnone]
      rfl
    refine ⟨hcurrent.symm, rfl, ?_, ?_, fun _ hmem => List.mem_append_left _ hmem, ?_⟩
    · unfold reservation at hnone ⊢
      rw [KeyedList.lookup_append, hnone, lookup_newReservation, if_pos rfl]
      rfl
    · intro orderId hne
      unfold reservation
      rw [KeyedList.lookup_append, lookup_newReservation, if_neg hne, Option.or_none]
    · intro other hmem
      rcases List.mem_append.mp hmem with hmem | hmem
      · exact .inr hmem
      · exact .inl (List.mem_singleton.mp hmem)

/-- **What a sync that does not raise can do**: nothing, for an order without a row whose id is
taken, or the changes of the row with the journals for them. -/
theorem syncObligation_cases {books next : LedgerBooks} {obligation : OrderObligation}
    {relatedFill : Option FillEvent}
    (h : books.syncObligation obligation relatedFill = .ok next) :
    (books.ensureReservation obligation = (books, none) ∧ next = books) ∨
    ∃ opened record row, books.ensureReservation obligation = (opened, some record) ∧
      syncRow record.row obligation = .ok row ∧
      next =
        { reservations := KeyedList.replace ReservationRecord.orderId opened.reservations
            { record with row := row }
          ledger := postReservationRelease
            (consumptionPosted opened.ledger obligation (deltaConsumed record obligation)
              relatedFill)
            obligation (deltaReleased record obligation) } := by
  unfold syncObligation at h
  -- a skipped order leaves the books as they were
  have hnone : ∀ opened, books.ensureReservation obligation = (opened, none) → opened = books := by
    intro opened hopened
    rcases books.ensureReservation_cases obligation with
      ⟨record, -, he⟩ | ⟨-, -, he⟩ | ⟨-, -, he⟩
    · rw [he] at hopened
      cases hopened
    · rw [he] at hopened
      exact (Prod.mk.inj hopened).1.symm
    · rw [he] at hopened
      cases hopened
  split at h
  · next opened hopened =>
    obtain rfl := hnone opened hopened
    exact .inl ⟨hopened, (Except.ok.inj h).symm⟩
  · next opened record hopened =>
    right
    unfold syncRecord at h
    split at h
    · cases h
    · next row hrow =>
      rw [postDeltas_eq] at h
      exact ⟨opened, record, row, hopened, hrow, (Except.ok.inj h).symm⟩

theorem lookup_synced {books opened : LedgerBooks} {obligation : OrderObligation}
    {record : ReservationRecord}
    (hopened : books.ensureReservation obligation = (opened, some record)) (row : ReservationRow)
    (orderId : String) :
    KeyedList.lookup ReservationRecord.orderId
        (KeyedList.replace ReservationRecord.orderId opened.reservations
          { record with row := row }) orderId =
      if orderId = obligation.clientOrderId then some { record with row := row }
      else books.reservation orderId := by
  obtain ⟨-, hid, hown, hothers, -⟩ := ensureReservation_some hopened
  split
  · next heq =>
    rw [heq, ← hid]
    rw [← hid] at hown
    apply KeyedList.lookup_replace_self
    exact Option.isSome_iff_exists.mpr ⟨record, hown⟩
  · next hne =>
    rw [← hothers orderId hne]
    apply KeyedList.lookup_replace_ne
    show orderId ≠ record.orderId
    rw [hid]
    exact hne

end LedgerBooks

/-! ### Sources and balances -/

section Ledgers

variable {ledger : Ledger} {journal : LedgerJournal}

theorem hasSource_postJournal {sourceType : SourceType} {sourceId : SourceId} :
    hasSource (postJournal ledger journal) sourceType sourceId = true ↔
      hasSource ledger sourceType sourceId = true ∨
        (journal.sourceType = sourceType ∧ journal.sourceId = sourceId) := by
  unfold postJournal
  split
  · next hold =>
    -- the journals keep their sources, and that of the new one is among them
    have hmap : hasSource (ledger.map (fun posted =>
        if journal.sameSource posted then posted.addEntries journal.entries else posted))
          sourceType sourceId = hasSource ledger sourceType sourceId := by
      unfold hasSource
      rw [List.any_map]
      congr 1
      funext posted
      simp only [Function.comp]
      split <;> rfl
    rw [hmap]
    refine ⟨.inl, ?_⟩
    rintro (h | ⟨rfl, rfl⟩)
    · exact h
    · exact hold
  · simp [hasSource, List.any_append]

theorem entryBalance_twoLegs (journalType : JournalType) (sourceType : SourceType)
    (sourceId : SourceId) (debited credited account : LedgerAccount) (amount : ℚ) :
    entryBalance (twoLegs journalType sourceType sourceId debited credited amount).entries account =
      (if debited = account then amount else 0) - (if credited = account then amount else 0) := by
  unfold entryBalance twoLegs
  by_cases hd : debited = account <;> by_cases hc : credited = account <;>
    simp [hd, hc, LedgerEntry.signedAmount]

theorem postJournal_of_new
    (h : hasSource ledger journal.sourceType journal.sourceId = false) :
    postJournal ledger journal = ledger ++ [journal] := by
  unfold postJournal
  rw [h]
  rfl

variable {sourceType : SourceType} {sourceId : SourceId} {obligation : OrderObligation}
  {relatedFill : Option FillEvent} {amount : ℚ}

theorem hasSource_hold_of (h : hasSource ledger sourceType sourceId = true) :
    hasSource (postReservationHold ledger obligation amount) sourceType sourceId = true := by
  unfold postReservationHold
  split
  · exact h
  · exact hasSource_postJournal.mpr (.inl h)

theorem hasSource_release_of (h : hasSource ledger sourceType sourceId = true) :
    hasSource (postReservationRelease ledger obligation amount) sourceType sourceId = true := by
  unfold postReservationRelease
  split
  · exact h
  · exact hasSource_postJournal.mpr (.inl h)

theorem hasSource_consumption_of (h : hasSource ledger sourceType sourceId = true) :
    hasSource (consumptionPosted ledger obligation amount relatedFill) sourceType sourceId =
      true := by
  cases relatedFill with
  | none => exact h
  | some fill =>
    simp only [consumptionPosted, feeAttributed]
    split
    · exact h
    · have hsettled : hasSource (postJournal ledger (fillSettlement obligation fill amount))
          sourceType sourceId = true := hasSource_postJournal.mpr (.inl h)
      split
      · exact hsettled
      · exact hasSource_postJournal.mpr (.inl hsettled)

end Ledgers

end Aats.Portfolio
