import Aats.Reconciliation.Findings

/-!
# Which divergences a comparison detects

A comparison of local state with a current snapshot of the exchange. Fills, open orders and
balances that differ are always reported so that the resumption is blocked. Positions are not: the
positions of the exchange are only looked at if there is one, the last of several with the same key
stands for all of them, and what counts as zero is dropped before quantities are compared.

## Main definitions
* `Diverges` — local state differs from the exchange or from what the fills reconstruct.
-/

namespace Aats.Reconciliation

open Governance (normalizePositionMode normalizedText)
open KeyedList
open Portfolio (Position PortfolioSnapshot)

/-! ### Divergences -/

/-- A comparison of local orders with a snapshot of the exchange that no local execution is later
than. -/
structure Compared (inputs : CompareInputs) (snapshot : ExchangeAccountSnapshot) : Prop where
  orders : inputs.orderStates ≠ []
  given : inputs.exchangeSnapshot = some snapshot
  comparison : inputs.exchangeComparisonEnabled = true
  portfolio : inputs.compareExchangePortfolio = true
  current : ∀ time ∈ localExecutionTimes inputs.orderStates inputs.fills, time ≤ snapshot.fetchedAt

def storedDerivativesQuantity (stored : PortfolioSnapshot) (key : String) : ℚ :=
  match stored.positions.lookup key with
  | some position => if position.productType = .derivatives then position.positionQty else 0
  | none => 0

def exchangePositionsAt (snapshot : ExchangeAccountSnapshot) (key : String) :
    List ExchangePosition :=
  snapshot.positions.filter fun position =>
    exchangePositionKey (normalizePositionMode (exchangePositionMode snapshot)) position = key

/-- The quantity of a key on the exchange: the sum over the positions with the key. -/
def exchangeQuantity (snapshot : ExchangeAccountSnapshot) (key : String) : ℚ :=
  ((exchangePositionsAt snapshot key).map
    (signedExchangeQuantity (normalizePositionMode (exchangePositionMode snapshot)))).sum

/-- A position differs from the exchange or from what the fills reconstruct. -/
inductive PositionDiverges (inputs : CompareInputs) (snapshot : ExchangeAccountSnapshot) : Prop
  | exchange (key : String) (h : epsilon12 <
      |exchangeQuantity snapshot key - storedDerivativesQuantity inputs.storedSnapshot key|)
  | reconstructed (key : String) (h : epsilon12 <
      |inputs.storedSnapshot.quantityOf key - inputs.reconstructedSnapshot.quantityOf key|)

inductive Diverges (inputs : CompareInputs) (snapshot : ExchangeAccountSnapshot) : Prop
  | fill (fillId : String)
      (h : UnexpectedFillId inputs.fills snapshot.fillIds inputs.acceptedExchangeFillIds fillId)
  | openOrder (key : String)
      (h : ¬ (key ∈ (localOpenOrders inputs.orderStates).map orderKey ↔
        key ∈ snapshot.openOrders.map exchangeOrderKey))
  | position (h : PositionDiverges inputs snapshot)
  | balance (currency : String) (h : epsilon9 <
      |inputs.storedSnapshot.balances.balance currency -
        inputs.reconstructedSnapshot.balances.balance currency|)
  | orphanFill (fill : FillRecord) (hmem : fill ∈ inputs.fills)
      (h : ∀ order ∈ inputs.orderStates, order.intentId ≠ fill.intentId)

/-- The report asks for a review or a halt and some finding blocks the resumption. -/
def Reported (report : ReconciliationReport) : Prop :=
  (report.severity = .reviewRequired ∨ report.severity = .hardMismatch) ∧
    ∃ finding ∈ report.findings, finding.blocksResume = true

/-- Every divergence is reported, and a clean report means that there is none. -/
def Detects (inputs : CompareInputs) (snapshot : ExchangeAccountSnapshot) : Prop :=
  (Diverges inputs snapshot → Reported (compare inputs)) ∧
    ((compare inputs).severity = .clean → ¬ Diverges inputs snapshot)

/-! ### What a comparison acts on -/

/-- The quantity of a key on the exchange as it is compared: that of the last position. -/
def comparedExchangeQuantity (snapshot : ExchangeAccountSnapshot) (key : String) : ℚ :=
  ((lastOpenPosition snapshot key).map
    (signedExchangeQuantity (normalizePositionMode (exchangePositionMode snapshot)))).getD 0

inductive ActedOn (inputs : CompareInputs) (snapshot : ExchangeAccountSnapshot) : Prop
  | fill (fillId : String)
      (h : UnexpectedFillId inputs.fills snapshot.fillIds inputs.acceptedExchangeFillIds fillId)
  | openOrder (key : String)
      (h : ¬ (key ∈ (localOpenOrders inputs.orderStates).map orderKey ↔
        key ∈ snapshot.openOrders.map exchangeOrderKey))
  | orderStatus (key : String) (order : LocalOrder) (exchangeOrder : ExchangeOpenOrder)
      (horder : filedOrder inputs.orderStates key = some order)
      (hexchange : filedExchangeOrder snapshot.openOrders key = some exchangeOrder)
      (h : (localStatus order).toLower ≠ exchangeOrder.status.toLower.toLower)
  | position (key : String) (hpositions : snapshot.positions ≠ [])
      (h : epsilon12 < |countedQuantity (storedDerivativesQuantity inputs.storedSnapshot key) -
        comparedExchangeQuantity snapshot key|)
  | marginMode (key : String) (position : Position) (other : ExchangePosition)
      (hstored : inputs.storedSnapshot.positions.lookup key = some position)
      (hderivatives : position.productType = .derivatives)
      (hcounts : epsilon12 < |position.positionQty|)
      (hother : lastOpenPosition snapshot key = some other)
      (hmode : normalizedText (other.marginMode.getD "") ≠ [])
      (h : (marginModeText position.marginMode).toList ≠ normalizedText (other.marginMode.getD ""))
  | exchangeBalance (currency : String)
      (hbills : inputs.exchangeBillsSummary.available = false ∨
        billsIndicateManualActivity inputs.exchangeBillsSummary = true)
      (h : epsilon9 < |inputs.storedSnapshot.balances.balance currency -
        exchangeTotal snapshot.balances currency|)
  | filledQuantity (order : LocalOrder) (hmem : order ∈ inputs.orderStates)
      (h : epsilon12 < |fillQtyOfIntent inputs.fills order.intentId - order.filledQty|)
  | orphanFill (fill : FillRecord) (hmem : fill ∈ inputs.fills)
      (h : ∀ order ∈ inputs.orderStates, order.intentId ≠ fill.intentId)
  | reconstructedBalance (currency : String) (h : epsilon9 <
      |inputs.storedSnapshot.balances.balance currency -
        inputs.reconstructedSnapshot.balances.balance currency|)
  | reconstructedPosition (key : String) (h : epsilon12 <
      |countedQuantity (inputs.storedSnapshot.quantityOf key) -
        countedQuantity (inputs.reconstructedSnapshot.quantityOf key)|)
  | positionMode (mode : String) (hproduct : inputs.productType = some .derivatives)
      (hmode : exchangePositionMode snapshot = some mode)
      (h : positionModeConflicts (openDerivativesOrders inputs.orderStates) mode ≠ [])
  | posSide (mode : String) (hproduct : inputs.productType = some .derivatives)
      (hmode : exchangePositionMode snapshot = some mode)
      (h : posSideConflicts (openDerivativesOrders inputs.orderStates) mode ≠ [])
  | unknownWrite (order : LocalOrder) (operation : UnknownWriteOperation)
      (hmem : order ∈ inputs.orderStates) (hwrite : unknownWriteOperation order = some operation)
      (h : requiresUnknownWriteReview order operation inputs.now inputs.settings = true)

section Compared

variable {inputs : CompareInputs} {snapshot : ExchangeAccountSnapshot}
  (h : Compared inputs snapshot)

include h

theorem Compared.covers : inputs.snapshotCovers = true := by
  unfold CompareInputs.snapshotCovers
  rw [h.given, snapshotCoversLocalExecution_eq_true]
  exact h.current

theorem Compared.diffs_eq : inputs.diffs =
    { order := orderDiff inputs.orderStates inputs.fills (some snapshot) true
      fill := fillDiff inputs.orderStates inputs.fills (some snapshot) true
        inputs.acceptedExchangeFillIds
      balance := balanceDiff inputs.storedSnapshot.balances inputs.reconstructedSnapshot.balances
        (some snapshot) true
      position := positionDiff inputs.storedSnapshot inputs.reconstructedSnapshot (some snapshot)
        true } := by
  unfold CompareInputs.diffs
  rw [h.covers, h.comparison, h.portfolio, h.given]
  rfl

end Compared

theorem exchangePositionDifferences_eq_nil {stored : PortfolioSnapshot}
    {snapshot : ExchangeAccountSnapshot} :
    exchangePositionDifferences stored snapshot = [] ↔
      ∀ key, |countedQuantity (storedDerivativesQuantity stored key) -
        comparedExchangeQuantity snapshot key| ≤ epsilon12 := by
  have hstored : ∀ key, quantityAt (positionQuantityMap (derivativesPositions stored)) key =
      countedQuantity (storedDerivativesQuantity stored key) := by
    intro key
    unfold derivativesPositions
    rw [quantityAt_positionQuantityMap stored
      (fun position => decide (position.productType = .derivatives))]
    unfold storedDerivativesQuantity
    cases stored.positions.lookup key with
    | none => simp [countedQuantity]
    | some position =>
      simp only [decide_eq_true_eq]
      split
      · rfl
      · simp [countedQuantity]
  unfold exchangePositionDifferences
  simp only []
  rw [differences_quantityAt_eq_nil]
  simp only [hstored, quantityAt_exchangePositionQuantityMap]
  rfl

/-! ### The diffs, read off the inputs -/

theorem exchangeMismatches_ne_nil {stored reconstructed : PortfolioSnapshot}
    {snapshot : ExchangeAccountSnapshot} :
    (positionDiff stored reconstructed (some snapshot) true).exchangeMismatches ≠ [] ↔
      snapshot.positions ≠ [] ∧ ∃ key, epsilon12 <
        |countedQuantity (storedDerivativesQuantity stored key) -
          comparedExchangeQuantity snapshot key| := by
  by_cases hpositions : snapshot.positions = []
  · have hnone : (positionDiff stored reconstructed (some snapshot) true).exchangeMismatches = [] := by
      simp only [positionDiff, hpositions, List.isEmpty_nil, if_true]
    simp [hnone, hpositions]
  · have hsome : (positionDiff stored reconstructed (some snapshot) true).exchangeMismatches =
        exchangePositionDifferences stored snapshot := by
      simp only [positionDiff, List.isEmpty_iff, hpositions, if_false]
    rw [hsome, ne_eq, exchangePositionDifferences_eq_nil]
    push Not
    exact ⟨fun hex => ⟨hpositions, hex⟩, fun hex => hex.2⟩

theorem lookup_storedMargin (stored : PortfolioSnapshot) (key : String) :
    (lookup Prod.fst (snapshotPositionMarginMap (derivativesPositions stored)) key).map Prod.snd =
      ((stored.positions.lookup key).filter fun position =>
        decide (epsilon12 < |position.positionQty|) &&
          decide (position.productType = .derivatives)).map storedMarginRow := by
  unfold snapshotPositionMarginMap derivativesPositions
  rw [List.filter_filter]
  rw [lookup_positionTable stored.positions (fun position =>
    decide (epsilon12 < |position.positionQty|) && decide (position.productType = .derivatives))
    storedMarginRow]
  cases stored.positions.lookup key with
  | none => rfl
  | some position =>
    rw [Option.bind_some, Option.filter_some]
    split
    · rfl
    · rfl

theorem lookup_exchangeMargin (snapshot : ExchangeAccountSnapshot) (key : String) :
    (lookup Prod.fst (exchangePositionMarginMap snapshot) key).map Prod.snd =
      (lastOpenPosition snapshot key).map exchangeMarginRow :=
  lookup_exchangeTable snapshot exchangeMarginRow key

theorem marginModeDiffers_eq_true {row other : MarginRow} {mode : MarginMode}
    (hrow : row.marginMode = some (marginModeText mode)) :
    marginModeDiffers row other = true ↔ normalizedText (other.marginMode.getD "") ≠ [] ∧
      (marginModeText mode).toList ≠ normalizedText (other.marginMode.getD "") := by
  have hmode : marginModeOf row = some (marginModeText mode).toList := by
    unfold marginModeOf
    rw [hrow]
    cases mode <;> decide
  unfold marginModeDiffers
  rw [hmode]
  unfold marginModeOf
  cases hother : normalizedText (other.marginMode.getD "") with
  | nil => simp
  | cons first rest => simp

theorem exchangeMarginModeMismatches_ne_nil {stored reconstructed : PortfolioSnapshot}
    {snapshot : ExchangeAccountSnapshot} :
    (positionDiff stored reconstructed (some snapshot) true).exchangeMarginModeMismatches ≠ [] ↔
      ∃ key position other, stored.positions.lookup key = some position ∧
        position.productType = .derivatives ∧ epsilon12 < |position.positionQty| ∧
        lastOpenPosition snapshot key = some other ∧
        normalizedText (other.marginMode.getD "") ≠ [] ∧
        (marginModeText position.marginMode).toList ≠
          normalizedText (other.marginMode.getD "") := by
  by_cases hpositions : snapshot.positions = []
  · have hnone : (positionDiff stored reconstructed (some snapshot)
        true).exchangeMarginModeMismatches = [] := by
      simp only [positionDiff, hpositions, List.isEmpty_nil, if_true]
    -- without positions of the exchange there is none to differ from
    have hlast : ∀ key, lastOpenPosition snapshot key = none := by
      intro key
      unfold lastOpenPosition openExchangePositions
      rw [hpositions]
      rfl
    simp [hnone, hlast]
  · have hsome : (positionDiff stored reconstructed (some snapshot)
        true).exchangeMarginModeMismatches =
        commonKeys (snapshotPositionMarginMap (derivativesPositions stored))
          (exchangePositionMarginMap snapshot) marginModeDiffers := by
      simp only [positionDiff, List.isEmpty_iff, hpositions, if_false]
    rw [hsome, ne_eq, commonKeys_eq_nil]
    simp only [lookup_storedMargin, lookup_exchangeMargin]
    push Not
    constructor
    · rintro ⟨key, row, other, hrow, hother, htest⟩
      obtain ⟨position, hposition, rfl⟩ := Option.map_eq_some_iff.mp hother
      obtain ⟨storedPosition, hkept, rfl⟩ := Option.map_eq_some_iff.mp hrow
      obtain ⟨hstored, hcounts⟩ := Option.filter_eq_some_iff.mp hkept
      rw [Bool.and_eq_true, decide_eq_true_iff, decide_eq_true_iff] at hcounts
      rw [ne_eq, Bool.not_eq_false, marginModeDiffers_eq_true rfl] at htest
      exact ⟨key, storedPosition, position, hstored, hcounts.2, hcounts.1, hposition, htest⟩
    · rintro ⟨key, position, other, hstored, hderivatives, hcounts, hother, htest⟩
      refine ⟨key, storedMarginRow position, exchangeMarginRow other, ?_, ?_, ?_⟩
      · rw [hstored, Option.filter_some, if_pos]
        · rfl
        · rw [Bool.and_eq_true, decide_eq_true_iff, decide_eq_true_iff]
          exact ⟨hcounts, hderivatives⟩
      · rw [hother]
        rfl
      · rw [ne_eq, Bool.not_eq_false, marginModeDiffers_eq_true rfl]
        exact htest

theorem unexpectedFills_eq_true {diffs : Diffs} {orders : List LocalOrder}
    {fills : List FillRecord} {snapshot : ExchangeAccountSnapshot} {accepted : List String}
    (h : diffs.fill = fillDiff orders fills (some snapshot) true accepted) :
    diffs.unexpectedFills = true ↔
      ∃ fillId, UnexpectedFillId fills snapshot.fillIds accepted fillId := by
  have hview : diffs.fill.exchange = fillView fills snapshot.fillIds accepted := by rw [h]; rfl
  unfold Diffs.unexpectedFills
  rw [hview]
  simp only [← mem_unexpected_fillView]
  cases fillView fills snapshot.fillIds accepted with
  | none => simp
  | some view =>
    simp only [Option.some.injEq, exists_eq_left', Bool.not_eq_true', List.isEmpty_eq_false_iff]
    constructor
    · exact List.exists_mem_of_ne_nil _
    · rintro ⟨fillId, hmem⟩
      exact List.ne_nil_of_mem hmem

section Blocks

variable {inputs : CompareInputs} {snapshot : ExchangeAccountSnapshot}
  (h : Compared inputs snapshot)

include h

theorem Compared.localExecution_eq_true : inputs.diffs.localExecution = true ↔
    (∃ order ∈ inputs.orderStates,
      epsilon12 < |fillQtyOfIntent inputs.fills order.intentId - order.filledQty|) ∨
    ∃ fill ∈ inputs.fills, ∀ order ∈ inputs.orderStates, order.intentId ≠ fill.intentId := by
  rw [h.diffs_eq]
  simp only [Diffs.localExecution, orderDiff, fillDiff, Bool.or_eq_true, Bool.not_eq_true',
    List.isEmpty_eq_false_iff, ne_eq, replayMismatches_eq_nil, orphanFills_eq_nil]
  push Not
  rfl

theorem Compared.localPortfolio_eq_true : inputs.diffs.localPortfolio = true ↔
    (∃ currency, epsilon9 < |inputs.storedSnapshot.balances.balance currency -
      inputs.reconstructedSnapshot.balances.balance currency|) ∨
    ∃ key, epsilon12 < |countedQuantity (inputs.storedSnapshot.quantityOf key) -
      countedQuantity (inputs.reconstructedSnapshot.quantityOf key)| := by
  rw [h.diffs_eq]
  simp only [Diffs.localPortfolio, Bool.or_eq_true, Bool.not_eq_true', List.isEmpty_eq_false_iff,
    ne_eq, balanceDiff_reconstructed_eq_nil, reconstructedMismatches_eq_nil]
  push Not
  rfl

theorem Compared.balanceUnexplained_eq_true :
    balanceUnexplained inputs.diffs inputs.exchangeBillsSummary = true ↔
      (∃ currency, epsilon9 < |inputs.storedSnapshot.balances.balance currency -
        exchangeTotal snapshot.balances currency|) ∧
      (inputs.exchangeBillsSummary.available = false ∨
        billsIndicateManualActivity inputs.exchangeBillsSummary = true) := by
  rw [h.diffs_eq]
  simp only [balanceUnexplained, Bool.and_eq_true, Bool.or_eq_true, Bool.not_eq_true',
    List.isEmpty_eq_false_iff, ne_eq, balanceDiff_exchange_eq_nil]
  push Not
  rfl

theorem Compared.openOrders_isSome : inputs.diffs.order.exchange.isSome = true ↔
    (∃ key, ¬ (key ∈ (localOpenOrders inputs.orderStates).map orderKey ↔
      key ∈ snapshot.openOrders.map exchangeOrderKey)) ∨
    ∃ key order exchangeOrder, filedOrder inputs.orderStates key = some order ∧
      filedExchangeOrder snapshot.openOrders key = some exchangeOrder ∧
      (localStatus order).toLower ≠ exchangeOrder.status.toLower.toLower := by
  have hview : inputs.diffs.order.exchange =
      openOrderView inputs.orderStates snapshot.openOrders := by
    rw [h.diffs_eq]
    rfl
  rw [hview, Option.isSome_iff_ne_none, ne_eq, openOrderView_eq_none, not_and_or]
  push Not
  rfl

theorem Compared.blocking_iff_actedOn : Blocking inputs ↔ ActedOn inputs snapshot := by
  have hposition : inputs.diffs.position = positionDiff inputs.storedSnapshot
      inputs.reconstructedSnapshot (some snapshot) true := by
    rw [h.diffs_eq]
  have hfill : inputs.diffs.fill = fillDiff inputs.orderStates inputs.fills (some snapshot) true
      inputs.acceptedExchangeFillIds := by
    rw [h.diffs_eq]
  constructor
  · intro hblocking
    cases hblocking with
    | openOrders hsome =>
      rcases h.openOrders_isSome.mp hsome with ⟨key, hkey⟩ | ⟨key, order, other, horder, hother, hne⟩
      · exact .openOrder key hkey
      · exact .orderStatus key order other horder hother hne
    | unexpectedFill hsome =>
      obtain ⟨fillId, hid⟩ := (unexpectedFills_eq_true hfill).mp hsome
      exact .fill fillId hid
    | position hne =>
      rw [hposition, exchangeMismatches_ne_nil] at hne
      obtain ⟨hpositions, key, hkey⟩ := hne
      exact .position key hpositions hkey
    | marginMode hne =>
      rw [hposition, exchangeMarginModeMismatches_ne_nil] at hne
      obtain ⟨key, position, other, hstored, hderivatives, hcounts, hother, hmode, hdiffer⟩ := hne
      exact .marginMode key position other hstored hderivatives hcounts hother hmode hdiffer
    | balance hsome =>
      obtain ⟨⟨currency, hdiffer⟩, hbills⟩ := h.balanceUnexplained_eq_true.mp hsome
      exact .exchangeBalance currency hbills hdiffer
    | execution hsome =>
      rcases h.localExecution_eq_true.mp hsome with ⟨order, hmem, hdiffer⟩ | ⟨fill, hmem, hnone⟩
      · exact .filledQuantity order hmem hdiffer
      · exact .orphanFill fill hmem hnone
    | portfolio hsome =>
      rcases h.localPortfolio_eq_true.mp hsome with ⟨currency, hdiffer⟩ | ⟨key, hdiffer⟩
      · exact .reconstructedBalance currency hdiffer
      · exact .reconstructedPosition key hdiffer
    -- the conflicts with the account configuration are those with the snapshot that is given
    | positionMode other mode hproduct hsnapshot hmode hne =>
      obtain rfl : snapshot = other := Option.some.inj (h.given.symm.trans hsnapshot)
      exact .positionMode mode hproduct hmode hne
    | posSide other mode hproduct hsnapshot hmode hne =>
      obtain rfl : snapshot = other := Option.some.inj (h.given.symm.trans hsnapshot)
      exact .posSide mode hproduct hmode hne
    | unknownWrite order operation hmem hwrite hreview =>
      exact .unknownWrite order operation hmem hwrite hreview
  · intro hacted
    cases hacted with
    | fill fillId hid => exact .unexpectedFill ((unexpectedFills_eq_true hfill).mpr ⟨fillId, hid⟩)
    | openOrder key hkey => exact .openOrders (h.openOrders_isSome.mpr (Or.inl ⟨key, hkey⟩))
    | orderStatus key order other horder hother hne =>
      exact .openOrders (h.openOrders_isSome.mpr (Or.inr ⟨key, order, other, horder, hother, hne⟩))
    | position key hpositions hkey =>
      apply Blocking.position
      rw [hposition, exchangeMismatches_ne_nil]
      exact ⟨hpositions, key, hkey⟩
    | marginMode key position other hstored hderivatives hcounts hother hmode hdiffer =>
      apply Blocking.marginMode
      rw [hposition, exchangeMarginModeMismatches_ne_nil]
      exact ⟨key, position, other, hstored, hderivatives, hcounts, hother, hmode, hdiffer⟩
    | exchangeBalance currency hbills hdiffer =>
      exact .balance (h.balanceUnexplained_eq_true.mpr ⟨⟨currency, hdiffer⟩, hbills⟩)
    | filledQuantity order hmem hdiffer =>
      exact .execution (h.localExecution_eq_true.mpr (Or.inl ⟨order, hmem, hdiffer⟩))
    | orphanFill fill hmem hnone =>
      exact .execution (h.localExecution_eq_true.mpr (Or.inr ⟨fill, hmem, hnone⟩))
    | reconstructedBalance currency hdiffer =>
      exact .portfolio (h.localPortfolio_eq_true.mpr (Or.inl ⟨currency, hdiffer⟩))
    | reconstructedPosition key hdiffer =>
      exact .portfolio (h.localPortfolio_eq_true.mpr (Or.inr ⟨key, hdiffer⟩))
    | positionMode mode hproduct hmode hne =>
      exact .positionMode snapshot mode hproduct h.given hmode hne
    | posSide mode hproduct hmode hne => exact .posSide snapshot mode hproduct h.given hmode hne
    | unknownWrite order operation hmem hwrite hreview =>
      exact .unknownWrite order operation hmem hwrite hreview

theorem Compared.reported_iff : Reported (compare inputs) ↔ ActedOn inputs snapshot := by
  rw [← h.blocking_iff_actedOn]
  constructor
  · rintro ⟨_, finding, hmem, hblocks⟩
    by_contra hnone
    rw [blocksResume_of_not_blocking h.orders hnone hmem] at hblocks
    cases hblocks
  · intro hblocking
    obtain ⟨finding, hmem, hblocks, _⟩ := showsBlocking_of_blocking h.orders hblocking
    exact ⟨severity_of_blocking h.orders hblocking, finding, hmem, hblocks⟩

end Blocks

/-- **A comparison detects every divergence** exactly if, whenever a position differs, there is
something it acts on: another divergence, or a difference of positions that it sees. -/
theorem detects_iff {inputs : CompareInputs} {snapshot : ExchangeAccountSnapshot}
    (h : Compared inputs snapshot) :
    Detects inputs snapshot ↔ (PositionDiverges inputs snapshot → ActedOn inputs snapshot) := by
  constructor
  · rintro ⟨hreported, _⟩ hposition
    exact h.reported_iff.mp (hreported (.position hposition))
  · intro hseen
    have hacted : Diverges inputs snapshot → ActedOn inputs snapshot := by
      intro hdiverges
      cases hdiverges with
      | fill fillId hid => exact .fill fillId hid
      | openOrder key hkey => exact .openOrder key hkey
      | position hposition => exact hseen hposition
      | balance currency hdiffer => exact .reconstructedBalance currency hdiffer
      | orphanFill fill hmem hnone => exact .orphanFill fill hmem hnone
    refine ⟨fun hdiverges => h.reported_iff.mpr (hacted hdiverges), ?_⟩
    intro hclean hdiverges
    rcases (h.reported_iff.mpr (hacted hdiverges)).1 with hseverity | hseverity
    · rw [hclean] at hseverity
      cases hseverity
    · rw [hclean] at hseverity
      cases hseverity

/-- An account whose only fill opened a swap position. -/
def openedSwap : PortfolioSnapshot where
  snapshotTs := 1
  createdAt := 1
  balances := ∅
  positions := AList.insert "BTC-USDT-SWAP"
    { symbol := "BTC-USDT-SWAP", positionQty := 1, positionNotional := 100, avgEntryPrice := 100,
      unrealizedPnl := 0, productType := .derivatives } ∅
  realizedPnl := 0
  unrealizedPnl := 0
  totalEquity := 0
  grossExposure := 100
  netExposure := 100

def closedOut : ExchangeAccountSnapshot where
  fetchedAt := 5
  fillIds := ["fill-1"]

def closedOutInputs : CompareInputs where
  productType := some .derivatives
  orderStates := [{ clientOrderId := "order-1", intentId := "intent-1", symbol := "BTC-USDT-SWAP",
                    status := .filled, requestedQty := 1, filledQty := 1, remainingQty := 0,
                    venue := "OKX", productType := .derivatives, lastUpdateTs := some 1 }]
  fills := [{ fillId := "fill-1", intentId := "intent-1", symbol := "BTC-USDT-SWAP",
              venue := "OKX", side := .buy, fillQty := 1, fillPrice := 100, feeAmount := 0,
              productType := .derivatives, exchangeTimestamp := 1, ingestionTimestamp := 1 }]
  storedSnapshot := openedSwap
  reconstructedSnapshot := openedSwap
  exchangeSnapshot := some closedOut
  exchangeComparisonEnabled := true
  compareExchangePortfolio := true
  now := 10

theorem compared_closedOut : Compared closedOutInputs closedOut where
  orders := by decide
  given := rfl
  comparison := rfl
  portfolio := rfl
  current := by decide

theorem detects_iff_closedOut :
    Detects closedOutInputs closedOut ↔
      (PositionDiverges closedOutInputs closedOut → ActedOn closedOutInputs closedOut) :=
  detects_iff compared_closedOut

theorem closed_position_undetected :
    ¬ ∀ (inputs : CompareInputs) (snapshot : ExchangeAccountSnapshot),
      Compared inputs snapshot → Detects inputs snapshot := by
  intro hall
  have hclean : (compare closedOutInputs).severity = .clean := by decide +kernel
  have hdiverges : epsilon12 < |exchangeQuantity closedOut "BTC-USDT-SWAP" -
      storedDerivativesQuantity closedOutInputs.storedSnapshot "BTC-USDT-SWAP"| := by
    decide +kernel
  exact (hall closedOutInputs closedOut compared_closedOut).2 hclean
    (.position (.exchange "BTC-USDT-SWAP" hdiverges))

end Aats.Reconciliation
