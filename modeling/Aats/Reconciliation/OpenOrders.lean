import Aats.Reconciliation.Findings

/-!
# How open orders are paired

A local open order and an open order of the exchange are filed under the first identifier they
have. The exchange always gives its own identifier, so a local order that does not know it, as
after a lost acknowledgement, is filed under another key than its counterpart.

## Main results
* `pairsUp_iff` — paired orders are seen as the same exactly if they are filed alike; for distinct
  identifiers, exactly if every local order knows its identifier on the exchange.
-/

namespace Aats.Reconciliation

open KeyedList

/-! ### Findings about open orders -/

def FindingType.aboutOpenOrders : FindingType → Bool
  | .exchangeOpenOrderMissing | .unexpectedExchangeOpenOrder | .exchangeOpenOrderStatusMismatch => true
  | .category hard => hard = .derivativesOrderStateUnknownOnExchange
  | .stateDetail kind => kind = .orderStateUnknownOnExchange || kind = .orderStatusMismatch
  | _ => false

/-! ### Orders of both sides -/

def knownExchangeId (order : LocalOrder) : Option String :=
  order.exchangeOrderId.filter (fun id => id ≠ "")

/-- A local order and an open order of the exchange, with both identifiers, are the same. -/
structure SameOrder (order : LocalOrder) (other : ExchangeOpenOrder) : Prop where
  clientOrderId : other.clientOrderId = some order.clientOrderId
  hasClientOrderId : order.clientOrderId ≠ ""
  hasExchangeOrderId : other.exchangeOrderId ≠ ""
  exchangeOrderId : ∀ id, knownExchangeId order = some id → id = other.exchangeOrderId
  status : (localStatus order).toLower = other.status.toLower

def Paired (orders : List LocalOrder) (openOrders : List ExchangeOpenOrder) : Prop :=
  ∃ listed, listed.Perm openOrders ∧ List.Forall₂ SameOrder orders listed

/-- The comparison sees the open orders of both sides as the same. -/
def PairsUp (inputs : CompareInputs) (snapshot : ExchangeAccountSnapshot) : Prop :=
  (orderDiff inputs.orderStates inputs.fills (some snapshot) true).exchange = none ∧
    ∀ finding ∈ (compare inputs).findings, finding.findingType.aboutOpenOrders = false

/-- Both sides file their orders alike: an order filed under its own identifier has it as the
identifier of some order of the exchange, its counterpart is filed under the key of some local
order, and orders under one key have the same status. -/
structure FiledAlike (orders : List LocalOrder) (openOrders : List ExchangeOpenOrder) : Prop where
  ownIdentifier : ∀ order ∈ localOpenOrders orders, knownExchangeId order = none →
    ∃ other ∈ openOrders, other.exchangeOrderId = order.clientOrderId
  counterpart : ∀ order ∈ localOpenOrders orders, knownExchangeId order = none →
    ∀ other ∈ openOrders, other.clientOrderId = some order.clientOrderId →
      ∃ filed ∈ localOpenOrders orders, orderKey filed = other.exchangeOrderId
  status : ∀ key order other, filedOrder orders key = some order →
    filedExchangeOrder openOrders key = some other →
    (localStatus order).toLower = other.status.toLower

theorem orderKey_of_known {order : LocalOrder} {id : String} (h : knownExchangeId order = some id) :
    orderKey order = id := by
  obtain ⟨hid, hne⟩ := Option.filter_eq_some_iff.mp h
  unfold orderKey textOr
  rw [hid]
  simp only []
  rw [if_neg (by simpa using hne)]

theorem orderKey_of_unknown {order : LocalOrder} (h : knownExchangeId order = none) :
    orderKey order = order.clientOrderId := by
  unfold orderKey textOr
  unfold knownExchangeId at h
  cases hid : order.exchangeOrderId with
  | none => rfl
  | some id =>
    simp only []
    rw [hid, Option.filter_some] at h
    split at h
    · cases h
    · next hempty => rw [if_pos (by simpa using hempty)]

theorem SameOrder.exchangeOrderKey_eq {order : LocalOrder} {other : ExchangeOpenOrder}
    (h : SameOrder order other) : exchangeOrderKey other = other.exchangeOrderId := by
  unfold exchangeOrderKey textOr
  exact if_neg h.hasExchangeOrderId

theorem toLower_toLower (text : String) : text.toLower.toLower = text.toLower := by
  have hchar : ∀ char : Char, char.toLower.toLower = char.toLower := by
    intro char
    unfold Char.toLower
    grind
  unfold String.toLower
  rw [← String.toList_inj, String.toList_map, String.toList_map, List.map_map]
  congr 1
  funext char
  exact hchar char

theorem exists_of_forall₂ {α β : Type*} {R : α → β → Prop} {items : List α} {others : List β}
    (h : List.Forall₂ R items others) {item : α} (hmem : item ∈ items) :
    ∃ other ∈ others, R item other := by
  induction h with
  | nil => cases hmem
  | @cons first second rest tail hfirst _ ih =>
    rcases List.mem_cons.mp hmem with rfl | hrest
    · exact ⟨second, List.mem_cons_self, hfirst⟩
    · obtain ⟨other, hother, hrelated⟩ := ih hrest
      exact ⟨other, List.mem_cons_of_mem _ hother, hrelated⟩

section Pairing

variable {orders : List LocalOrder} {openOrders : List ExchangeOpenOrder}

theorem Paired.exists_other (h : Paired orders openOrders) {order : LocalOrder}
    (hmem : order ∈ orders) : ∃ other ∈ openOrders, SameOrder order other := by
  obtain ⟨listed, hperm, hpairs⟩ := h
  obtain ⟨other, hother, hsame⟩ := exists_of_forall₂ hpairs hmem
  exact ⟨other, hperm.mem_iff.mp hother, hsame⟩

theorem Paired.exists_order (h : Paired orders openOrders) {other : ExchangeOpenOrder}
    (hmem : other ∈ openOrders) : ∃ order ∈ orders, SameOrder order other := by
  obtain ⟨listed, hperm, hpairs⟩ := h
  exact exists_of_forall₂ hpairs.flip (hperm.mem_iff.mpr hmem)

theorem filedOrder_spec {key : String} {order : LocalOrder}
    (h : filedOrder orders key = some order) :
    order ∈ localOpenOrders orders ∧ orderKey order = key :=
  ⟨List.mem_reverse.mp (mem_of_lookup h), key_of_lookup h⟩

theorem filedExchangeOrder_spec {key : String} {other : ExchangeOpenOrder}
    (h : filedExchangeOrder openOrders key = some other) :
    other ∈ openOrders ∧ exchangeOrderKey other = key :=
  ⟨List.mem_reverse.mp (mem_of_lookup h), key_of_lookup h⟩

/-- **Paired orders show no difference** exactly if both sides file them alike. -/
theorem openOrderView_of_paired (h : Paired (localOpenOrders orders) openOrders) :
    openOrderView orders openOrders = none ↔ FiledAlike orders openOrders := by
  -- the exchange gives its own identifier, so it files every order under it
  have hkey : ∀ other ∈ openOrders, exchangeOrderKey other = other.exchangeOrderId := by
    intro other hother
    obtain ⟨order, _, hsame⟩ := h.exists_order hother
    exact hsame.exchangeOrderKey_eq
  rw [openOrderView_eq_none]
  simp only [toLower_toLower]
  constructor
  · rintro ⟨hkeys, hstatus⟩
    refine ⟨?_, ?_, hstatus⟩
    · intro order horder hunknown
      obtain ⟨other, hother, heq⟩ := List.mem_map.mp
        ((hkeys (orderKey order)).mp (List.mem_map_of_mem horder))
      rw [hkey other hother, orderKey_of_unknown hunknown] at heq
      exact ⟨other, hother, heq⟩
    · intro order _ _ other hother _
      obtain ⟨filed, hfiled, heq⟩ := List.mem_map.mp
        ((hkeys (exchangeOrderKey other)).mpr (List.mem_map_of_mem hother))
      rw [hkey other hother] at heq
      exact ⟨filed, hfiled, heq⟩
  · rintro ⟨hown, hcounterpart, hstatus⟩
    refine ⟨?_, hstatus⟩
    intro key
    constructor
    · intro hmem
      obtain ⟨order, horder, rfl⟩ := List.mem_map.mp hmem
      cases hknown : knownExchangeId order with
      | none =>
        -- filed under its client identifier, which some listed order must have as its own
        obtain ⟨other, hother, heq⟩ := hown order horder hknown
        rw [orderKey_of_unknown hknown, ← heq, ← hkey other hother]
        exact List.mem_map_of_mem hother
      | some id =>
        obtain ⟨other, hother, hsame⟩ := h.exists_other horder
        rw [orderKey_of_known hknown, hsame.exchangeOrderId id hknown, ← hkey other hother]
        exact List.mem_map_of_mem hother
    · intro hmem
      obtain ⟨other, hother, rfl⟩ := List.mem_map.mp hmem
      obtain ⟨order, horder, hsame⟩ := h.exists_order hother
      rw [hkey other hother]
      cases hknown : knownExchangeId order with
      | none =>
        obtain ⟨filed, hfiled, heq⟩ :=
          hcounterpart order horder hknown other hother hsame.clientOrderId
        rw [← heq]
        exact List.mem_map_of_mem hfiled
      | some id =>
        rw [← hsame.exchangeOrderId id hknown, ← orderKey_of_known hknown]
        exact List.mem_map_of_mem horder

theorem filedAlike_iff_known (h : Paired (localOpenOrders orders) openOrders)
    (hnodup : (openOrders.map (·.exchangeOrderId)).Nodup)
    (hdisjoint : ∀ order ∈ localOpenOrders orders, ∀ other ∈ openOrders,
      other.exchangeOrderId ≠ order.clientOrderId) :
    FiledAlike orders openOrders ↔
      ∀ order ∈ localOpenOrders orders, (knownExchangeId order).isSome = true := by
  constructor
  · intro halike order horder
    by_contra hunknown
    rw [Option.not_isSome_iff_eq_none] at hunknown
    obtain ⟨other, hother, heq⟩ := halike.ownIdentifier order horder hunknown
    exact hdisjoint order horder other hother heq
  · intro hall
    have hnever : ∀ order ∈ localOpenOrders orders, knownExchangeId order ≠ none := by
      intro order horder
      exact Option.isSome_iff_ne_none.mp (hall order horder)
    refine ⟨fun order horder hnone => absurd hnone (hnever order horder),
      fun order horder hnone => absurd hnone (hnever order horder), ?_⟩
    intro key order other hfiled hexchange
    obtain ⟨horder, rfl⟩ := filedOrder_spec hfiled
    obtain ⟨hother, hotherKey⟩ := filedExchangeOrder_spec hexchange
    obtain ⟨partner, hpartner, hsame⟩ := h.exists_other horder
    obtain ⟨id, hid⟩ := Option.isSome_iff_exists.mp (hall order horder)
    obtain ⟨_, _, hfiledSame⟩ := h.exists_order hother
    have hids : partner.exchangeOrderId = other.exchangeOrderId := by
      rw [← hsame.exchangeOrderId id hid, ← hfiledSame.exchangeOrderKey_eq, hotherKey,
        orderKey_of_known hid]
    rw [← List.inj_on_of_nodup_map hnodup hpartner hother hids]
    exact hsame.status

end Pairing

/-! ### No finding about open orders -/

def DerivativesAssessment.aboutOpenOrders (assessment : DerivativesAssessment) : Prop :=
  .derivativesOrderStateUnknownOnExchange ∈ assessment.mismatchCategories ∨
    ∃ detail ∈ assessment.unknownStateDetails,
      detail.kind = .orderStateUnknownOnExchange ∨ detail.kind = .orderStatusMismatch

theorem not_aboutOpenOrders_append {left right : DerivativesAssessment}
    (hleft : ¬ left.aboutOpenOrders) (hright : ¬ right.aboutOpenOrders) :
    ¬ (left.append right).aboutOpenOrders := by
  rintro (hcategory | ⟨detail, hdetail, hkind⟩)
  · rcases List.mem_append.mp hcategory with hin | hin
    · exact hleft (Or.inl hin)
    · exact hright (Or.inl hin)
  · rcases List.mem_append.mp hdetail with hin | hin
    · exact hleft (Or.inr ⟨detail, hin, hkind⟩)
    · exact hright (Or.inr ⟨detail, hin, hkind⟩)

theorem not_aboutOpenOrders_empty : ¬ DerivativesAssessment.aboutOpenOrders {} := by
  rintro (hcategory | ⟨detail, hdetail, _⟩)
  · cases hcategory
  · cases hdetail

theorem not_aboutOpenOrders_assessConflicts {category : MismatchCategory} {reason : String}
    {kind : StateDetailKind} {conflicts : List LocalOrder}
    (hcategory : category ≠ .derivativesOrderStateUnknownOnExchange)
    (hkind : kind ≠ .orderStateUnknownOnExchange ∧ kind ≠ .orderStatusMismatch) :
    ¬ (assessConflicts category reason kind conflicts).aboutOpenOrders := by
  unfold assessConflicts
  split
  · exact not_aboutOpenOrders_empty
  · rintro (hin | ⟨detail, hdetail, hdetailKind⟩)
    · exact hcategory (List.mem_singleton.mp hin).symm
    · obtain ⟨order, _, rfl⟩ := List.mem_map.mp hdetail
      rcases hdetailKind with heq | heq
      · exact hkind.1 heq
      · exact hkind.2 heq

theorem not_aboutOpenOrders_assessment {inputs : CompareInputs}
    (h : inputs.diffs.order.exchange = none) : ¬ inputs.assessment.aboutOpenOrders := by
  unfold CompareInputs.assessment derivativesAssessment
  split
  · simp only []
    rw [h]
    refine not_aboutOpenOrders_append (not_aboutOpenOrders_append (not_aboutOpenOrders_append
      (not_aboutOpenOrders_append not_aboutOpenOrders_empty ?_) ?_) ?_) ?_
    · unfold assessFills
      split
      · exact not_aboutOpenOrders_empty
      · split
        · exact not_aboutOpenOrders_empty
        · simp [DerivativesAssessment.aboutOpenOrders]
    · unfold assessModes
      split
      · exact not_aboutOpenOrders_empty
      · exact not_aboutOpenOrders_append
          (not_aboutOpenOrders_assessConflicts (by decide) (by decide))
          (not_aboutOpenOrders_assessConflicts (by decide) (by decide))
    · unfold assessLegs
      split
      · exact not_aboutOpenOrders_empty
      · simp [DerivativesAssessment.aboutOpenOrders]
    · unfold assessChains
      simp only []
      split
      · exact not_aboutOpenOrders_empty
      · simp [DerivativesAssessment.aboutOpenOrders]
  · exact not_aboutOpenOrders_empty

/-! ### The families of findings -/

section Families

variable {finding : Finding}

theorem aboutOpenOrders_orderFindings {diff : OrderDiff} (h : diff.exchange = none)
    (hmem : finding ∈ orderFindings diff) : finding.findingType.aboutOpenOrders = false := by
  unfold orderFindings at hmem
  rw [h] at hmem
  simp only [List.append_nil, List.mem_map] at hmem
  obtain ⟨entry, _, rfl⟩ := hmem
  rfl

theorem aboutOpenOrders_fillFindings {fills : List FillRecord} {now : Execution.Timestamp}
    {diff : FillDiff}
    (hmem : finding ∈ fillFindings fills now diff) :
    finding.findingType.aboutOpenOrders = false := by
  unfold fillFindings at hmem
  rcases List.mem_append.mp hmem with hreplayed | hexchange
  · obtain ⟨orphan, _, rfl⟩ := List.mem_map.mp hreplayed
    rfl
  · split at hexchange
    · cases hexchange
    · rcases List.mem_append.mp hexchange with hmissing | hunexpected
      · obtain ⟨fillId, _, rfl⟩ := List.mem_map.mp hmissing
        unfold missingFillFinding
        split
        · split
          · rfl
          · rfl
        · rfl
      · obtain ⟨fillId, _, rfl⟩ := List.mem_map.mp hunexpected
        rfl

theorem aboutOpenOrders_balanceFindings {diff : BalanceDiff}
    (hmem : finding ∈ balanceFindings diff) : finding.findingType.aboutOpenOrders = false := by
  unfold balanceFindings at hmem
  rcases List.mem_append.mp hmem with hlocal | hexchange
  · obtain ⟨entry, _, rfl⟩ := List.mem_map.mp hlocal
    rfl
  · obtain ⟨entry, _, rfl⟩ := List.mem_map.mp hexchange
    rfl

theorem aboutOpenOrders_positionFindings {diff : PositionDiff} {onlyReduceRequired : Bool}
    (hmem : finding ∈ positionFindings diff onlyReduceRequired) :
    finding.findingType.aboutOpenOrders = false := by
  unfold positionFindings at hmem
  simp only [List.mem_append, List.mem_map] at hmem
  rcases hmem with ((⟨entry, _, rfl⟩ | ⟨entry, _, rfl⟩) | ⟨key, _, rfl⟩) | ⟨key, _, rfl⟩
  · rfl
  · unfold exchangePositionFinding
    simp only []
    split
    · rfl
    · rfl
  · rfl
  · rfl

theorem aboutOpenOrders_activityFindings {categories : List MismatchCategory}
    {bills : ExchangeBillsSummary} {onlyReduceRequired : Bool}
    (hmem : finding ∈ activityFindings categories bills onlyReduceRequired) :
    finding.findingType.aboutOpenOrders = false := by
  unfold activityFindings at hmem
  rcases List.mem_append.mp hmem with hmanual | hbills
  · split at hmanual
    · rw [List.mem_singleton.mp hmanual]
      rfl
    · cases hmanual
  · split at hbills
    · rw [List.mem_singleton.mp hbills]
      rfl
    · cases hbills

theorem aboutOpenOrders_hardFindings {categories : List MismatchCategory}
    (h : .derivativesOrderStateUnknownOnExchange ∉ categories)
    (hmem : finding ∈ hardFindings categories) : finding.findingType.aboutOpenOrders = false := by
  unfold hardFindings at hmem
  obtain ⟨hard, hfilter, rfl⟩ := List.mem_map.mp hmem
  have hcategory := of_decide_eq_true (List.mem_filter.mp hfilter).2
  have hne : hard.1 ≠ .derivativesOrderStateUnknownOnExchange := by
    intro heq
    rw [heq] at hcategory
    exact h hcategory
  exact decide_eq_false hne

theorem aboutOpenOrders_chainFindings {categories : List MismatchCategory}
    {onlyReduceRequired : Bool} (hmem : finding ∈ chainFindings categories onlyReduceRequired) :
    finding.findingType.aboutOpenOrders = false := by
  unfold chainFindings at hmem
  split at hmem
  · rw [List.mem_singleton.mp hmem]
    rfl
  · cases hmem

end Families

theorem aboutOpenOrders_of_none {inputs : CompareInputs} (h : inputs.diffs.order.exchange = none)
    {finding : Finding} (hmem : finding ∈ inputs.findings) :
    finding.findingType.aboutOpenOrders = false := by
  have hassessment := not_aboutOpenOrders_assessment h
  rcases of_mem_findings hmem with hdirect | ⟨detail, hdetail, rfl⟩ | ⟨hremark | hremark, _⟩
  · unfold directFindings at hdirect
    simp only [List.mem_append] at hdirect
    rcases hdirect with ((((((hin | hin) | hin) | hin) | hin) | hin) | hin) | hin
    · exact aboutOpenOrders_orderFindings h hin
    · exact aboutOpenOrders_fillFindings hin
    · exact aboutOpenOrders_balanceFindings hin
    · exact aboutOpenOrders_positionFindings hin
    · exact aboutOpenOrders_activityFindings hin
    · refine aboutOpenOrders_hardFindings ?_ hin
      intro hcategory
      rcases mem_categories.mp hcategory with hdiffs | hassessed
      · exact notMem_mismatchCategories (by simp) hdiffs
      · exact hassessment (Or.inl hassessed)
    · exact aboutOpenOrders_chainFindings hin
    · obtain ⟨detail, _, rfl⟩ := List.mem_map.mp hin
      rfl
  · have hunknown : detail.kind ≠ .orderStateUnknownOnExchange :=
      fun heq => hassessment (Or.inr ⟨detail, hdetail, Or.inl heq⟩)
    have hstatus : detail.kind ≠ .orderStatusMismatch :=
      fun heq => hassessment (Or.inr ⟨detail, hdetail, Or.inr heq⟩)
    show (decide (detail.kind = _) || decide (detail.kind = _)) = false
    rw [decide_eq_false hunknown, decide_eq_false hstatus]
    rfl
  · rw [hremark]
    rfl
  · rw [hremark]
    rfl

/-! ### Paired orders -/

/-- **Paired open orders are seen as the same** exactly if both sides file them alike. With distinct
identifiers this means that every local order knows its identifier on the exchange. -/
theorem pairsUp_iff {inputs : CompareInputs} {snapshot : ExchangeAccountSnapshot}
    (hgiven : inputs.exchangeSnapshot = some snapshot)
    (h : Paired (localOpenOrders inputs.orderStates) snapshot.openOrders) :
    (PairsUp inputs snapshot ↔ FiledAlike inputs.orderStates snapshot.openOrders) ∧
    ((snapshot.openOrders.map (·.exchangeOrderId)).Nodup →
      (∀ order ∈ localOpenOrders inputs.orderStates, ∀ other ∈ snapshot.openOrders,
        other.exchangeOrderId ≠ order.clientOrderId) →
      (PairsUp inputs snapshot ↔
        ∀ order ∈ localOpenOrders inputs.orderStates, (knownExchangeId order).isSome = true)) := by
  have hview : PairsUp inputs snapshot ↔
      openOrderView inputs.orderStates snapshot.openOrders = none := by
    constructor
    · exact fun hpairs => hpairs.1
    · intro hnone
      have hdiff : inputs.diffs.order.exchange = none := by
        unfold CompareInputs.diffs orderDiff
        simp only []
        split
        · next other _ hsome =>
          obtain rfl : snapshot = other := Option.some.inj (hgiven.symm.trans hsome)
          exact hnone
        · rfl
      exact ⟨hnone, fun finding hmem => aboutOpenOrders_of_none hdiff hmem⟩
  refine ⟨?_, ?_⟩
  · rw [hview, openOrderView_of_paired h]
  · intro hnodup hdisjoint
    rw [hview, openOrderView_of_paired h, filedAlike_iff_known h hnodup hdisjoint]

/-- An order whose submission was never acknowledged. -/
def unacknowledged : LocalOrder :=
  { clientOrderId := "aats-1", intentId := "intent-1", symbol := "BTC-USDT", status := .submitted,
    requestedQty := 1, remainingQty := 1, exchangeStatus := some "live", venue := "OKX" }

def listedOrder : ExchangeOpenOrder where
  clientOrderId := some "aats-1"
  exchangeOrderId := "7001"
  status := "live"

def nothingHeld : Portfolio.PortfolioSnapshot where
  snapshotTs := 1
  createdAt := 1
  balances := ∅
  positions := ∅
  realizedPnl := 0
  unrealizedPnl := 0
  totalEquity := 0
  grossExposure := 0
  netExposure := 0

/-- A comparison of an account with one local order and one order on the exchange. -/
def openOrderInputs (order : LocalOrder) : CompareInputs where
  orderStates := [order]
  fills := []
  storedSnapshot := nothingHeld
  reconstructedSnapshot := nothingHeld
  exchangeSnapshot := some { fetchedAt := 5, openOrders := [listedOrder] }
  exchangeComparisonEnabled := true
  now := 10

theorem sameOrder_unacknowledged : SameOrder unacknowledged listedOrder where
  clientOrderId := rfl
  hasClientOrderId := by decide
  hasExchangeOrderId := by decide
  exchangeOrderId := nofun
  status := rfl

theorem paired_unacknowledged : Paired (localOpenOrders [unacknowledged]) [listedOrder] :=
  ⟨[listedOrder], List.Perm.refl _, .cons sameOrder_unacknowledged .nil⟩

theorem pairsUp_iff_unacknowledged :
    PairsUp (openOrderInputs unacknowledged) { fetchedAt := 5, openOrders := [listedOrder] } ↔
      ∀ order ∈ localOpenOrders [unacknowledged], (knownExchangeId order).isSome = true :=
  (@pairsUp_iff (openOrderInputs unacknowledged) { fetchedAt := 5, openOrders := [listedOrder] } rfl
    paired_unacknowledged).2 (by decide) (by decide)

theorem unacknowledged_not_paired :
    ¬ ∀ (inputs : CompareInputs) (snapshot : ExchangeAccountSnapshot),
      inputs.exchangeSnapshot = some snapshot →
      ((localOpenOrders inputs.orderStates).map (·.clientOrderId)).Nodup →
      Paired (localOpenOrders inputs.orderStates) snapshot.openOrders → PairsUp inputs snapshot := by
  intro hall
  have hpairs := hall (openOrderInputs unacknowledged) _ rfl (by decide) paired_unacknowledged
  have hdiff : (orderDiff [unacknowledged] [] (some { fetchedAt := 5, openOrders := [listedOrder] })
      true).exchange.isSome = true := by
    decide +kernel
  rw [show (orderDiff [unacknowledged] [] (some { fetchedAt := 5, openOrders := [listedOrder] })
      true).exchange = none from hpairs.1] at hdiff
  cases hdiff

end Aats.Reconciliation
