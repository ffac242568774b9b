import Aats.FillOrdering
import Aats.Portfolio.CashFlow

/-!
# Posting fills to the double-entry ledger

`services/ledger/settlement_posting.py`: a fill is posted as up to four journals of two entries
each. The spot legs move the notional and the quantity between `cash_available` and
`external_clearing`, the realized PnL of the projection and the fee go between `cash_available`
and their own accounts. A journal is posted once for each source, and the available balances of a
product type and margin mode are the `cash_available` accounts that hold more than the tolerance.

An account stands for the row that `get_or_create_account_in_session` finds or creates, and a
source id for the parts that `_stable_id` hashes.

## Main definitions
* `postFillEffects` — `post_fill_effects_in_session`.
* `availableBalance`, `totalAvailable` — what `available_balances_in_session` reports.
-/

namespace Aats.Portfolio

open Holdings

/-! ### Journals -/

/-- The `account_type` of a ledger account. -/
inductive AccountType
  | cashAvailable
  | cashReserved
  | externalClearing
  | realizedPnl
  | feeExpense
  | feeIncome
  | openingBalance
  deriving DecidableEq

structure LedgerAccount where
  accountType : AccountType
  currency : String
  productType : ProductType
  marginMode : MarginMode
  deriving DecidableEq

/-- The `direction` of an entry. -/
inductive Direction
  | debit
  | credit
  deriving DecidableEq

structure LedgerEntry where
  account : LedgerAccount
  direction : Direction
  amount : ℚ
  deriving DecidableEq

/-- The `source_type` of a journal. -/
inductive SourceType
  | openingBalance
  | fillQuoteSpend
  | fillAssetDelivery
  | fillAssetReceipt
  | fillQuoteProceeds
  | fillRealizedPnl
  | fillFee
  | reservation
  | reservationRelease
  | fillSettlement
  | fillFeeAttribution
  deriving DecidableEq

/-- What the `source_id` of a journal is, or is a hash of. -/
inductive SourceId
  | bootstrap (productType : ProductType) (marginMode : MarginMode) (currency : String)
  | fill (fillId currency : String)
  | hold (obligationId : String) (reservedAmount : ℚ)
  | release (obligationId : String) (releasedAmount : ℚ)
  | settlement (fillId : String)
  deriving DecidableEq

/-- The `journal_type` of a journal: its source type, but for a hold and for fees. -/
inductive JournalType
  | ofSource (sourceType : SourceType)
  | fillFeeRebate
  | reservationHold
  | fillFeeExpense
  | fillFeeIncome
  deriving DecidableEq

structure LedgerJournal where
  journalType : JournalType
  sourceType : SourceType
  sourceId : SourceId
  entries : List LedgerEntry
  deriving DecidableEq

/-- The ledger: its journals, in the order they were posted. -/
abbrev Ledger := List LedgerJournal

structure FillSettlementProjection where
  baseCurrency : Option String
  quoteCurrency : Option String
  startingQuantity : ℚ
  endingQuantity : ℚ
  realizedPnlDelta : ℚ
  feeDelta : ℚ
  deriving DecidableEq

/-- An entry on the balance of its account: debits count up. -/
def LedgerEntry.signedAmount (entry : LedgerEntry) : ℚ :=
  match entry.direction with
  | .debit => entry.amount
  | .credit => -entry.amount

def entryBalance (entries : List LedgerEntry) (account : LedgerAccount) : ℚ :=
  ((entries.filter (·.account = account)).map (·.signedAmount)).sum

/-- `balance_by_account_in_session`. -/
def balanceByAccount (ledger : Ledger) (account : LedgerAccount) : ℚ :=
  entryBalance (ledger.flatMap (·.entries)) account

/-- `get_by_source_in_session` finds a journal. -/
def hasSource (ledger : Ledger) (sourceType : SourceType) (sourceId : SourceId) : Bool :=
  ledger.any (fun journal => journal.sourceType = sourceType ∧ journal.sourceId = sourceId)

def postOnce (ledger : Ledger) (journal : LedgerJournal) : Ledger :=
  if hasSource ledger journal.sourceType journal.sourceId then ledger else ledger ++ [journal]

/-- A journal of two entries: an amount from the credited to the debited account. -/
def twoLegs (journalType : JournalType) (sourceType : SourceType) (sourceId : SourceId)
    (debited credited : LedgerAccount) (amount : ℚ) : LedgerJournal where
  journalType := journalType
  sourceType := sourceType
  sourceId := sourceId
  entries :=
    [{ account := debited, direction := .debit, amount := amount },
     { account := credited, direction := .credit, amount := amount }]

def ensureInitialBalance (ledger : Ledger) (currency : String) (amount : ℚ)
    (productType : ProductType) (marginMode : MarginMode) : Ledger :=
  if amount ≤ epsilon12 then ledger
  else
    postOnce ledger (twoLegs (.ofSource .openingBalance) .openingBalance
      (.bootstrap productType marginMode currency)
      { accountType := .cashAvailable, currency, productType, marginMode }
      { accountType := .openingBalance, currency, productType, marginMode } amount)

/-! ### Posting a fill -/

/-- The account of a type for the product type and margin mode of a fill. -/
def fillAccount (fill : FillEvent) (accountType : AccountType) (currency : String) :
    LedgerAccount where
  accountType := accountType
  currency := currency
  productType := fill.productType
  marginMode := fill.marginMode

def fillJournal (fill : FillEvent) (sourceType : SourceType) (debited credited : AccountType)
    (amount : ℚ) (currency : String) : LedgerJournal :=
  twoLegs (.ofSource sourceType) sourceType (.fill fill.fillId currency)
    (fillAccount fill debited currency) (fillAccount fill credited currency) amount

def fillQuoteSpend (fill : FillEvent) : String → LedgerJournal :=
  fillJournal fill .fillQuoteSpend .externalClearing .cashAvailable (fill.fillQty * fill.fillPrice)

/-- The base currency that a sell delivers. -/
def fillAssetDelivery (fill : FillEvent) : String → LedgerJournal :=
  fillJournal fill .fillAssetDelivery .externalClearing .cashAvailable fill.fillQty

/-- The base currency that a buy receives. -/
def fillAssetReceipt (fill : FillEvent) : String → LedgerJournal :=
  fillJournal fill .fillAssetReceipt .cashAvailable .externalClearing fill.fillQty

def fillQuoteProceeds (fill : FillEvent) : String → LedgerJournal :=
  fillJournal fill .fillQuoteProceeds .cashAvailable .externalClearing
    (fill.fillQty * fill.fillPrice)

def fillRealizedPnl (fill : FillEvent) (realizedPnlDelta : ℚ) : String → LedgerJournal :=
  if 0 < realizedPnlDelta then
    fillJournal fill .fillRealizedPnl .cashAvailable .realizedPnl |realizedPnlDelta|
  else fillJournal fill .fillRealizedPnl .realizedPnl .cashAvailable |realizedPnlDelta|

def fillFee (fill : FillEvent) (currency : String) : LedgerJournal :=
  if 0 < fill.feeAmount then
    fillJournal fill .fillFee .feeExpense .cashAvailable |fill.feeAmount| currency
  else
    { fillJournal fill .fillFee .cashAvailable .feeIncome |fill.feeAmount| currency with
      journalType := .fillFeeRebate }

/-- Posting a journal in a currency, if there is one; an empty name counts as none. -/
def postIn (ledger : Ledger) (currency : Option String) (journal : String → LedgerJournal) :
    Ledger :=
  match currency.filter (· ≠ "") with
  | none => ledger
  | some name => postOnce ledger (journal name)

/-- The spot legs of a fill. What an order with a reservation row spends is posted with its
reservation. -/
def postSpotLegs (ledger : Ledger) (fill : FillEvent) (projection : FillSettlementProjection)
    (reserved : Bool) : Ledger :=
  match fill.productType, fill.side with
  | .derivatives, _ => ledger
  | .spot, .buy =>
    postIn
      (if reserved then ledger else postIn ledger projection.quoteCurrency (fillQuoteSpend fill))
      projection.baseCurrency (fillAssetReceipt fill)
  | .spot, .sell =>
    postIn
      (if reserved then ledger else postIn ledger projection.baseCurrency (fillAssetDelivery fill))
      projection.quoteCurrency (fillQuoteProceeds fill)

/-- The realized PnL of the projection, of whatever product type the fill is. -/
def postRealizedPnl (ledger : Ledger) (fill : FillEvent) (projection : FillSettlementProjection) :
    Ledger :=
  if epsilon12 < |projection.realizedPnlDelta| then
    postIn ledger projection.quoteCurrency (fillRealizedPnl fill projection.realizedPnlDelta)
  else ledger

def feeCoveredByReservation (fill : FillEvent) (projection : FillSettlementProjection)
    (reserved : Bool) : Bool :=
  let reservationFeeCurrency :=
    match fill.side with
    | .buy => projection.quoteCurrency
    | .sell => projection.baseCurrency
  reserved && fill.productType = .spot && reservationFeeCurrency.isSome &&
    (resolvedFeeCurrency fill projection.baseCurrency projection.quoteCurrency).getD "" =
      reservationFeeCurrency.getD ""

def postFee (ledger : Ledger) (fill : FillEvent) (projection : FillSettlementProjection)
    (reserved : Bool) : Ledger :=
  if epsilon12 < |fill.feeAmount| ∧ feeCoveredByReservation fill projection reserved = false then
    postIn ledger (resolvedFeeCurrency fill projection.baseCurrency projection.quoteCurrency)
      (fillFee fill)
  else ledger

/-- `post_fill_effects_in_session`; `reserved` says that the order has a reservation row. -/
def postFillEffects (ledger : Ledger) (fill : FillEvent) (projection : FillSettlementProjection)
    (reserved : Bool) : Ledger :=
  postFee (postRealizedPnl (postSpotLegs ledger fill projection reserved) fill projection) fill
    projection reserved

/-! ### Available balances -/

def cashAccount (productType : ProductType) (marginMode : MarginMode) (currency : String) :
    LedgerAccount where
  accountType := .cashAvailable
  currency := currency
  productType := productType
  marginMode := marginMode

/-- `available_balances_in_session` at a currency: an account within the tolerance is left out. -/
def availableBalance (ledger : Ledger) (productType : ProductType) (marginMode : MarginMode)
    (currency : String) : ℚ :=
  let amount := balanceByAccount ledger (cashAccount productType marginMode currency)
  if epsilon12 < |amount| then amount else 0

def accountScopes : List (ProductType × MarginMode) :=
  [(.spot, .cash), (.spot, .cross), (.spot, .isolated),
   (.derivatives, .cash), (.derivatives, .cross), (.derivatives, .isolated)]

/-- What is available in a currency over all product types and margin modes. -/
def totalAvailable (ledger : Ledger) (currency : String) : ℚ :=
  (accountScopes.map (fun scope => availableBalance ledger scope.1 scope.2 currency)).sum

/-! ### What posting changes of the cash accounts -/

section Posting

variable {ledger : Ledger} {fill : FillEvent} {productType : ProductType}
  {marginMode : MarginMode} {currency : String}

theorem balanceByAccount_concat (ledger : Ledger) (journal : LedgerJournal)
    (account : LedgerAccount) :
    balanceByAccount (ledger ++ [journal]) account =
      balanceByAccount ledger account + entryBalance journal.entries account := by
  unfold balanceByAccount entryBalance
  simp [List.flatMap_append, List.filter_append]

def Unposted (ledger : Ledger) (sourceType : SourceType) (fillId : String) : Prop :=
  ∀ journal ∈ ledger, journal.sourceType = sourceType →
    ∀ currency, journal.sourceId ≠ .fill fillId currency

theorem balanceByAccount_postOnce {journal : LedgerJournal}
    (hunposted : Unposted ledger journal.sourceType fill.fillId)
    (hsource : journal.sourceId = .fill fill.fillId currency) (account : LedgerAccount) :
    balanceByAccount (postOnce ledger journal) account =
      balanceByAccount ledger account + entryBalance journal.entries account := by
  have hnone : hasSource ledger journal.sourceType journal.sourceId = false := by
    rw [Bool.eq_false_iff]
    intro hyes
    obtain ⟨other, hmem, hother⟩ := List.any_eq_true.mp hyes
    obtain ⟨htype, hid⟩ := decide_eq_true_iff.mp hother
    exact hunposted other hmem htype currency (hid.trans hsource)
  rw [postOnce, hnone]
  exact balanceByAccount_concat _ _ _

structure JournalOf (fill : FillEvent) (sourceType : SourceType)
    (journal : String → LedgerJournal) : Prop where
  sourceType_eq : ∀ name, (journal name).sourceType = sourceType
  sourceId_eq : ∀ name, (journal name).sourceId = .fill fill.fillId name

theorem journalOf_fillJournal (fill : FillEvent) (sourceType : SourceType)
    (debited credited : AccountType) (amount : ℚ) :
    JournalOf fill sourceType (fillJournal fill sourceType debited credited amount) where
  sourceType_eq := fun _ => rfl
  sourceId_eq := fun _ => rfl

theorem journalOf_fillRealizedPnl (fill : FillEvent) (realizedPnlDelta : ℚ) :
    JournalOf fill .fillRealizedPnl (fillRealizedPnl fill realizedPnlDelta) := by
  unfold fillRealizedPnl
  split
  · exact journalOf_fillJournal _ _ _ _ _
  · exact journalOf_fillJournal _ _ _ _ _

theorem journalOf_fillFee (fill : FillEvent) : JournalOf fill .fillFee (fillFee fill) := by
  constructor
  · intro name
    unfold fillFee
    split <;> rfl
  · intro name
    unfold fillFee
    split <;> rfl

theorem Unposted.postIn {sourceType other : SourceType} {fillId : String}
    {journal : String → LedgerJournal} (h : Unposted ledger sourceType fillId)
    (target : Option String) (hjournal : JournalOf fill other journal)
    (hother : other ≠ sourceType ∨ fill.fillId ≠ fillId) :
    Unposted (postIn ledger target journal) sourceType fillId := by
  unfold Portfolio.postIn
  split
  · exact h
  · unfold postOnce
    split
    · exact h
    · intro posted hmem htype currency hid
      rcases List.mem_append.mp hmem with hmem | hmem
      · exact h posted hmem htype currency hid
      · rw [List.mem_singleton.mp hmem] at htype hid
        rw [hjournal.sourceType_eq] at htype
        rw [hjournal.sourceId_eq, SourceId.fill.injEq] at hid
        rcases hother with hne | hne
        · exact hne htype
        · exact hne hid.1

def cashEffect (fill : FillEvent) (productType : ProductType) (marginMode : MarginMode)
    (amount : ℚ) : ℚ :=
  if fill.productType = productType ∧ fill.marginMode = marginMode then amount else 0

theorem entryBalance_fillJournal (fill : FillEvent) (sourceType : SourceType)
    (debited credited : AccountType) (amount : ℚ) (name : String) :
    entryBalance (fillJournal fill sourceType debited credited amount name).entries
        (cashAccount productType marginMode currency) =
      cashEffect fill productType marginMode
        (if name = currency then
          (if debited = .cashAvailable then amount else 0) -
            (if credited = .cashAvailable then amount else 0)
        else 0) := by
  unfold entryBalance fillJournal twoLegs cashAccount fillAccount cashEffect
  by_cases hp : fill.productType = productType <;> by_cases hm : fill.marginMode = marginMode <;>
    by_cases hn : name = currency <;> by_cases hd : debited = .cashAvailable <;>
    by_cases hc : credited = .cashAvailable <;>
    simp [hp, hm, hn, hd, hc, LedgerEntry.signedAmount]

theorem cash_postIn {sourceType : SourceType} {target : Option String}
    {journal : String → LedgerJournal} {amount : ℚ}
    (hunposted : Unposted ledger sourceType fill.fillId) (hnamed : target ≠ some "")
    (hjournal : JournalOf fill sourceType journal)
    (hentries : ∀ name, entryBalance (journal name).entries
      (cashAccount productType marginMode currency) =
        cashEffect fill productType marginMode (if name = currency then amount else 0)) :
    balanceByAccount (postIn ledger target journal) (cashAccount productType marginMode currency) =
      balanceByAccount ledger (cashAccount productType marginMode currency) +
        cashEffect fill productType marginMode (if target = some currency then amount else 0) := by
  unfold postIn
  cases target with
  | none => simp [cashEffect]
  | some name =>
    -- a currency with a name is not dropped, and a new source is not skipped
    have hname : name ≠ "" := fun h => hnamed (congrArg some h)
    have hfilter : Option.filter (fun other => decide (other ≠ "")) (some name) = some name := by
      simp [hname]
    rw [hfilter]
    rw [balanceByAccount_postOnce (by rw [hjournal.sourceType_eq]; exact hunposted)
      (hjournal.sourceId_eq name), hentries]
    simp only [Option.some.injEq]

theorem cash_fillJournal {sourceType : SourceType} {target : Option String}
    (debited credited : AccountType) (amount : ℚ)
    (hunposted : Unposted ledger sourceType fill.fillId) (hnamed : target ≠ some "") :
    balanceByAccount (postIn ledger target (fillJournal fill sourceType debited credited amount))
        (cashAccount productType marginMode currency) =
      balanceByAccount ledger (cashAccount productType marginMode currency) +
        cashEffect fill productType marginMode (if target = some currency then
          (if debited = .cashAvailable then amount else 0) -
            (if credited = .cashAvailable then amount else 0) else 0) :=
  cash_postIn hunposted hnamed (journalOf_fillJournal _ _ _ _ _)
    (fun name => entryBalance_fillJournal fill _ _ _ _ name)

theorem cashEffect_add (fill : FillEvent) (productType : ProductType) (marginMode : MarginMode)
    (x y : ℚ) :
    cashEffect fill productType marginMode x + cashEffect fill productType marginMode y =
      cashEffect fill productType marginMode (x + y) := by
  unfold cashEffect
  split
  · rfl
  · exact add_zero 0

theorem currencies_named (symbol : String) :
    (resolveSymbolCurrencies symbol).1 ≠ some "" ∧ (resolveSymbolCurrencies symbol).2 ≠ some "" := by
  have hparts : ∀ part ∈ ((symbol.toList.splitOn '-').filter (· ≠ [])).map String.ofList,
      part ≠ "" := by
    intro part hmem hempty
    obtain ⟨chars, hchars, rfl⟩ := List.mem_map.mp hmem
    have hnil : chars = [] := by
      rw [← String.toList_ofList (l := chars), hempty]
      rfl
    exact absurd hnil (by simpa using (List.mem_filter.mp hchars).2)
  unfold resolveSymbolCurrencies
  split
  · split
    · next base quote rest heq =>
      rw [heq] at hparts
      refine ⟨fun h => hparts base List.mem_cons_self (Option.some.inj h), fun h => ?_⟩
      exact hparts quote (List.mem_cons_of_mem _ List.mem_cons_self) (Option.some.inj h)
    · simp
  · split
    · simp
    · next hne => simpa using hne

theorem feeCurrencyOf_named (fill : FillEvent) : feeCurrencyOf fill ≠ some "" := by
  have hnamed := currencies_named fill.symbol
  unfold feeCurrencyOf resolvedFeeCurrency
  split
  · next currency hsome =>
    have hfilter := (Option.filter_eq_some_iff.mp hsome).2
    intro h
    rw [Option.some.inj h] at hfilter
    simp at hfilter
  · split
    · split
      · exact hnamed.1
      · exact hnamed.2
    · exact hnamed.2

def FillSettlementProjection.Resolves (projection : FillSettlementProjection) (fill : FillEvent) :
    Prop :=
  projection.baseCurrency = baseOf fill ∧ projection.quoteCurrency = quoteOf fill

variable {projection : FillSettlementProjection}

theorem cash_postSpotLegs (hprojection : projection.Resolves fill)
    (hunposted : ∀ sourceType, Unposted ledger sourceType fill.fillId) :
    balanceByAccount (postSpotLegs ledger fill projection false)
        (cashAccount productType marginMode currency) =
      balanceByAccount ledger (cashAccount productType marginMode currency) +
        cashEffect fill productType marginMode (spotFlow fill currency) := by
  have hnamed : baseOf fill ≠ some "" ∧ quoteOf fill ≠ some "" := currencies_named fill.symbol
  unfold postSpotLegs
  rw [hprojection.1, hprojection.2]
  cases hp : fill.productType with
  | derivatives => simp [spotFlow, hp, cashEffect]
  | spot =>
    cases hs : fill.side with
    | buy =>
      -- the first leg is of another type, so the second one is still to be posted
      have hreceipt := (hunposted .fillAssetReceipt).postIn (quoteOf fill)
        (journalOf_fillJournal fill .fillQuoteSpend .externalClearing .cashAvailable
          (fill.fillQty * fill.fillPrice)) (.inl (by decide))
      simp only [Bool.false_eq_true, if_false, fillAssetReceipt, fillQuoteSpend]
      rw [cash_fillJournal _ _ _ hreceipt hnamed.1,
        cash_fillJournal _ _ _ (hunposted .fillQuoteSpend) hnamed.2, add_assoc, cashEffect_add]
      simp [spotFlow, hp, hs, signedQty]
    | sell =>
      have hproceeds := (hunposted .fillQuoteProceeds).postIn (baseOf fill)
        (journalOf_fillJournal fill .fillAssetDelivery .externalClearing .cashAvailable
          fill.fillQty) (.inl (by decide))
      simp only [Bool.false_eq_true, if_false, fillQuoteProceeds, fillAssetDelivery]
      rw [cash_fillJournal _ _ _ hproceeds hnamed.2,
        cash_fillJournal _ _ _ (hunposted .fillAssetDelivery) hnamed.1, add_assoc, cashEffect_add]
      simp [spotFlow, hp, hs, signedQty, add_comm]

theorem cash_postRealizedPnl (hprojection : projection.Resolves fill)
    (hunposted : Unposted ledger .fillRealizedPnl fill.fillId) :
    balanceByAccount (postRealizedPnl ledger fill projection)
        (cashAccount productType marginMode currency) =
      balanceByAccount ledger (cashAccount productType marginMode currency) +
        cashEffect fill productType marginMode
          (if quoteOf fill = some currency then bookedPnl projection.realizedPnlDelta else 0) := by
  unfold postRealizedPnl bookedPnl isEffectivelyZero
  by_cases hsmall : |projection.realizedPnlDelta| ≤ epsilon12
  · rw [if_neg (not_lt.mpr hsmall)]
    simp [hsmall, cashEffect]
  · rw [if_pos (not_le.mp hsmall), hprojection.2]
    simp only [hsmall, decide_false, Bool.false_eq_true, if_false]
    apply cash_postIn hunposted (currencies_named fill.symbol).2 (journalOf_fillRealizedPnl _ _)
    intro name
    -- the journal is turned around by the sign, so the amount is signed again
    unfold fillRealizedPnl
    split
    · next hpos =>
      rw [entryBalance_fillJournal, abs_of_pos hpos]
      simp
    · next hneg =>
      rw [entryBalance_fillJournal, abs_of_nonpos (not_lt.mp hneg)]
      simp

theorem cash_postFee (hprojection : projection.Resolves fill)
    (hunposted : Unposted ledger .fillFee fill.fillId) :
    balanceByAccount (postFee ledger fill projection false)
        (cashAccount productType marginMode currency) =
      balanceByAccount ledger (cashAccount productType marginMode currency) +
        cashEffect fill productType marginMode
          (if feeCurrencyOf fill = some currency then -bookedPnl fill.feeAmount else 0) := by
  have hcovered : feeCoveredByReservation fill projection false = false := by
    simp [feeCoveredByReservation]
  have hcurrency : resolvedFeeCurrency fill projection.baseCurrency projection.quoteCurrency =
      feeCurrencyOf fill := by
    rw [hprojection.1, hprojection.2]
    rfl
  unfold postFee bookedPnl isEffectivelyZero
  rw [hcovered, hcurrency]
  by_cases hsmall : |fill.feeAmount| ≤ epsilon12
  · rw [if_neg (fun h => not_lt.mpr hsmall h.1)]
    simp [hsmall, cashEffect]
  · rw [if_pos ⟨not_le.mp hsmall, rfl⟩]
    simp only [hsmall, decide_false, Bool.false_eq_true, if_false]
    apply cash_postIn hunposted (feeCurrencyOf_named fill) (journalOf_fillFee fill)
    intro name
    unfold fillFee
    split
    · next hpos =>
      rw [entryBalance_fillJournal, abs_of_pos hpos]
      simp
    · next hneg =>
      rw [entryBalance_fillJournal, abs_of_nonpos (not_lt.mp hneg)]
      simp

def postedFlow (fill : FillEvent) (realizedPnlDelta : ℚ) (currency : String) : ℚ :=
  spotFlow fill currency +
    (if quoteOf fill = some currency then bookedPnl realizedPnlDelta else 0) +
    (if feeCurrencyOf fill = some currency then -bookedPnl fill.feeAmount else 0)

theorem Unposted.postSpotLegs {sourceType : SourceType} {fillId : String}
    (h : Unposted ledger sourceType fillId) (reserved : Bool)
    (hother : (sourceType = .fillRealizedPnl ∨ sourceType = .fillFee) ∨ fill.fillId ≠ fillId) :
    Unposted (postSpotLegs ledger fill projection reserved) sourceType fillId := by
  have hleg : ∀ posted : SourceType, posted ≠ .fillRealizedPnl → posted ≠ .fillFee →
      posted ≠ sourceType ∨ fill.fillId ≠ fillId := by
    rintro posted hpnl hfee
    refine hother.imp ?_ id
    rintro (rfl | rfl)
    · exact hpnl
    · exact hfee
  unfold Portfolio.postSpotLegs
  split
  · exact h
  · apply Unposted.postIn _ _ (journalOf_fillJournal _ _ _ _ _) (hleg _ (by decide) (by decide))
    split
    · exact h
    · exact h.postIn _ (journalOf_fillJournal _ _ _ _ _) (hleg _ (by decide) (by decide))
  · apply Unposted.postIn _ _ (journalOf_fillJournal _ _ _ _ _) (hleg _ (by decide) (by decide))
    split
    · exact h
    · exact h.postIn _ (journalOf_fillJournal _ _ _ _ _) (hleg _ (by decide) (by decide))

theorem Unposted.postRealizedPnl {sourceType : SourceType} {fillId : String}
    (h : Unposted ledger sourceType fillId)
    (hother : .fillRealizedPnl ≠ sourceType ∨ fill.fillId ≠ fillId) :
    Unposted (postRealizedPnl ledger fill projection) sourceType fillId := by
  unfold Portfolio.postRealizedPnl
  split
  · exact h.postIn _ (journalOf_fillRealizedPnl _ _) hother
  · exact h

theorem Unposted.postFillEffects {sourceType : SourceType} {fillId : String}
    (h : Unposted ledger sourceType fillId) (reserved : Bool) (hother : fill.fillId ≠ fillId) :
    Unposted (postFillEffects ledger fill projection reserved) sourceType fillId := by
  have hbefore : Unposted (Portfolio.postRealizedPnl
      (Portfolio.postSpotLegs ledger fill projection reserved) fill projection) sourceType fillId :=
    (h.postSpotLegs reserved (.inr hother)).postRealizedPnl (.inr hother)
  unfold Portfolio.postFillEffects postFee
  split
  · exact hbefore.postIn _ (journalOf_fillFee fill) (.inr hother)
  · exact hbefore

theorem cashBalance_postFillEffects (hprojection : projection.Resolves fill)
    (hunposted : ∀ sourceType, Unposted ledger sourceType fill.fillId) :
    balanceByAccount (postFillEffects ledger fill projection false)
        (cashAccount productType marginMode currency) =
      balanceByAccount ledger (cashAccount productType marginMode currency) +
        cashEffect fill productType marginMode
          (postedFlow fill projection.realizedPnlDelta currency) := by
  have hpnl : Unposted (postSpotLegs ledger fill projection false) .fillRealizedPnl fill.fillId :=
    (hunposted _).postSpotLegs false (.inl (.inl rfl))
  have hfee : Unposted (postRealizedPnl (postSpotLegs ledger fill projection false) fill projection)
      .fillFee fill.fillId :=
    ((hunposted _).postSpotLegs false (.inl (.inr rfl))).postRealizedPnl (.inl (by decide))
  unfold postFillEffects
  rw [cash_postFee hprojection hfee, cash_postRealizedPnl hprojection hpnl,
    cash_postSpotLegs hprojection hunposted, add_assoc, add_assoc, cashEffect_add, cashEffect_add,
    postedFlow, add_assoc]

/-- All cash in a currency, over all product types and margin modes. -/
def totalCash (ledger : Ledger) (currency : String) : ℚ :=
  (accountScopes.map (fun scope =>
    balanceByAccount ledger (cashAccount scope.1 scope.2 currency))).sum

theorem totalCash_postFillEffects (hprojection : projection.Resolves fill)
    (hunposted : ∀ sourceType, Unposted ledger sourceType fill.fillId) :
    totalCash (postFillEffects ledger fill projection false) currency =
      totalCash ledger currency + postedFlow fill projection.realizedPnlDelta currency := by
  unfold totalCash accountScopes
  simp only [List.map_cons, List.map_nil, List.sum_cons, List.sum_nil,
    cashBalance_postFillEffects hprojection hunposted]
  -- one of the six accounts is that of the fill
  unfold cashEffect
  cases fill.productType <;> cases fill.marginMode <;> simp <;> ring

theorem totalAvailable_eq {step : ℚ} (hstep : epsilon12 < step)
    (hgrid : ∀ productType marginMode,
      OnGrid step (balanceByAccount ledger (cashAccount productType marginMode currency))) :
    totalAvailable ledger currency = totalCash ledger currency := by
  unfold totalAvailable totalCash
  congr 1
  apply List.map_congr_left
  intro scope _
  unfold availableBalance
  extract_lets amount
  split
  · rfl
  · next hsmall =>
    have hzero := (hgrid scope.1 scope.2).abs_le_iff epsilon12_pos.le hstep
    exact (hzero.mp (not_lt.mp hsmall)).symm

end Posting

end Aats.Portfolio
