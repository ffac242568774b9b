import Aats.Lib.RemainderSplit
import Aats.Portfolio.LotIdentity
import Aats.Portfolio.Rounding
import Aats.Recovery.OrderLedger

/-!
# Whose funding fee it is

`strategy_engines/sleeve_pnl_projection.py`: a funding bill of a symbol is shared out over the sleeves
whose fills opened the lots that were open when it came, by the notional of the lots. Every share is
rounded but for the last one, which takes the remainder. A bill without such lots stays with the
account.

## Main results
* `recordsFromFundingFee_attributed` — **the records share out the bill**.
-/

namespace Aats.Portfolio

open Execution (Timestamp strip)
open Recovery (RuntimeStateScope StrategyRefs)

/-! ### Records -/

inductive FundingDirection
  | income
  | expense
  | neutral
  deriving DecidableEq

/-- `FundingFeeRecord`; an absent symbol is empty. -/
structure FundingFeeRecord where
  billId : String
  symbol : String := ""
  currency : String
  amount : ℚ
  fundingDirection : FundingDirection := .neutral
  billTs : Option Timestamp := none
  createdAt : Timestamp
  productType : ProductType := .spot
  marginMode : MarginMode := .cash

/-- The `attribution_type`s of funding fees. -/
inductive AttributionType
  | accountLevelUnassigned
  | noMatchingInventoryWindow
  | zeroWeightInventory
  | symbolInventoryShare
  deriving DecidableEq

def AttributionType.value : AttributionType → String
  | accountLevelUnassigned => "account_level_unassigned"
  | noMatchingInventoryWindow => "no_matching_inventory_window"
  | zeroWeightInventory => "zero_weight_inventory"
  | symbolInventoryShare => "symbol_inventory_share"

/-- `SleevePnLRecord` of a funding fee, with its payload. -/
structure SleevePnLRecord where
  recordId : String
  strategySleeveId : Option String := none
  strategyFamily : Option String := none
  allocationId : Option String := none
  strategyLegRole : Option String := none
  symbol : String
  eventType : String := "funding_fee"
  fundingFeeId : String
  feeCurrency : String
  realizedPnl : ℚ := 0
  feeAmount : ℚ := 0
  fundingFeeAmount : ℚ
  inventoryMoveQty : ℚ := 0
  attributionType : AttributionType
  productType : ProductType
  marginMode : MarginMode
  eventTimestamp : Timestamp
  createdAt : Timestamp
  weights : Option (ℚ × ℚ) := none
  fundingDirection : FundingDirection
  deriving DecidableEq

/-- The stores of the service: the fills, if there is a store of them, what ties a fill to a strategy
by its id, and the families of the sleeves. -/
structure SleeveSources where
  fills : Option (List FillRecord)
  refs : String → StrategyRefs
  familyBySleeve : String → Option String

/-! ### Open lots -/

def fillEventMatchesScope (scope : RuntimeStateScope) (family : String) (fill : FillRecord) : Bool :=
  scope.symbolAllowed fill.symbol &&
    if scope.productType = .derivatives ∧ family = "smart_arbitrage" then
      if fill.productType = .spot then decide (fill.marginMode ∈ scope.smartArbitrageSpotMarginModes)
      else decide (fill.marginMode = scope.marginMode)
    else decide (fill.productType = scope.productType ∧ fill.marginMode = scope.marginMode)

def FundingFeeRecord.eventTs (record : FundingFeeRecord) : Timestamp :=
  record.billTs.getD record.createdAt

def FundingFeeRecord.scope (record : FundingFeeRecord) : RuntimeStateScope where
  productType := record.productType
  marginMode := record.marginMode
  allowedSymbols := [record.symbol]
  defaultSymbol := record.symbol

/-- `_fills_for_symbol`; every fill has the time at which it was taken in. -/
def fillsForSymbol (refs : String → StrategyRefs) (record : FundingFeeRecord)
    (fills : List FillRecord) : List FillRecord :=
  (fills.filter fun fill =>
    fillEventMatchesScope record.scope (refs fill.fillId).family fill).filter
      fun fill => fill.ingestionTimestamp ≤ record.eventTs

/-- `_active_lots_at`. -/
def activeLotsAt (refs : String → StrategyRefs) (record : FundingFeeRecord)
    (fills : List FillRecord) : List PositionLot :=
  match fillsForSymbol refs record fills with
  | [] => []
  | fill :: others => openLots (rebuildLotBook (fill :: others))

def sleeveOf (refs : String → StrategyRefs) (lot : PositionLot) : String :=
  strip (refs lot.sourceFillId).sleeveId

/-- The notional of a lot at its entry price, or its quantity if that is nothing. -/
def lotWeight (lot : PositionLot) : ℚ :=
  let weight := |lot.quantity| * |lot.entryPrice|
  if weight ≤ epsilon12 then |lot.quantity| else weight

/-- The lots of sleeves, less those that weigh nothing. -/
def weightedLots (refs : String → StrategyRefs) (lots : List PositionLot) : List PositionLot :=
  lots.filter fun lot => decide (sleeveOf refs lot ≠ "" ∧ epsilon12 < lotWeight lot)

def weightOf (lots : List PositionLot) : ℚ := (lots.map lotWeight).sum

/-! ### Shares -/

/-- `_unassigned_funding_fee_record`. -/
def unassignedFundingFeeRecord (digest : String → String) (record : FundingFeeRecord)
    (attributionType : AttributionType) : SleevePnLRecord where
  recordId := stableId digest "sleevepnl_funding" [record.billId, attributionType.value]
  symbol := record.symbol
  fundingFeeId := record.billId
  feeCurrency := record.currency
  fundingFeeAmount := record.amount
  attributionType := attributionType
  productType := record.productType
  marginMode := record.marginMode
  eventTimestamp := record.eventTs
  createdAt := record.createdAt
  fundingDirection := record.fundingDirection

def allocationOf (refs : String → StrategyRefs) (lots : List PositionLot) : Option String :=
  match ((lots.map fun lot => strip (refs lot.sourceFillId).allocationId).filter (· ≠ "")).dedup with
  | [allocation] => some allocation
  | _ => none

def sharedFundingFeeRecord (digest : String → String) (sources : SleeveSources)
    (record : FundingFeeRecord) (total : ℚ) (sleeve : String) (lots : List PositionLot)
    (shareAmount : ℚ) : SleevePnLRecord where
  recordId := stableId digest "sleevepnl_funding" [record.billId, sleeve]
  strategySleeveId := some sleeve
  strategyFamily := sources.familyBySleeve sleeve
  allocationId := allocationOf sources.refs lots
  strategyLegRole := some "hedge"
  symbol := record.symbol
  fundingFeeId := record.billId
  feeCurrency := record.currency
  fundingFeeAmount := shareAmount
  attributionType := .symbolInventoryShare
  productType := record.productType
  marginMode := record.marginMode
  eventTimestamp := record.eventTs
  createdAt := record.createdAt
  weights := some (weightOf lots, total)
  fundingDirection := record.fundingDirection

/-- The records of a bill over lots that weigh something. -/
def sharedRecords (digest : String → String) (sources : SleeveSources) (record : FundingFeeRecord)
    (lots : List PositionLot) : List SleevePnLRecord :=
  let groups := Grouping.sortedGroups (sleeveOf sources.refs) lots
  let total := (groups.map fun group => weightOf group.2).sum
  if groups = [] then [unassignedFundingFeeRecord digest record .noMatchingInventoryWindow]
  else if total ≤ epsilon12 then [unassignedFundingFeeRecord digest record .zeroWeightInventory]
  else
    let shares := RemainderSplit.split quantizeDecimal record.amount
      (groups.map fun group => record.amount * weightOf group.2 / total)
    (groups.zip shares).map fun entry =>
      sharedFundingFeeRecord digest sources record total entry.1.1 entry.1.2 entry.2

/-- `_records_from_funding_fee`. -/
def recordsFromFundingFee (digest : String → String) (sources : SleeveSources)
    (record : FundingFeeRecord) : List SleevePnLRecord :=
  match sources.fills with
  | none => [unassignedFundingFeeRecord digest record .accountLevelUnassigned]
  | some fills =>
    if record.symbol = "" then [unassignedFundingFeeRecord digest record .accountLevelUnassigned]
    else sharedRecords digest sources record
      (weightedLots sources.refs (activeLotsAt sources.refs record fills))

/-! ### The records of a bill -/

/-- A figure has the sign of a total, or is beyond zero by no more than the slack. -/
def SignedUpTo (slack total x : ℚ) : Prop := (0 ≤ total → -slack ≤ x) ∧ (total ≤ 0 → x ≤ slack)

def inventoryOf (sources : SleeveSources) (record : FundingFeeRecord) : List PositionLot :=
  match sources.fills with
  | none => []
  | some fills => weightedLots sources.refs (activeLotsAt sources.refs record fills)

def lotsOfSleeve (refs : String → StrategyRefs) (sleeve : String) (lots : List PositionLot) :
    List PositionLot := lots.filter (sleeveOf refs · = sleeve)

/-- The hash tells apart the record ids of the sleeves that share a bill. -/
def TellsSleevesApart (digest : String → String) (sources : SleeveSources)
    (record : FundingFeeRecord) : Prop :=
  ∀ lot ∈ inventoryOf sources record, ∀ other ∈ inventoryOf sources record,
    let text := fun lot => "|".intercalate [record.billId, sleeveOf sources.refs lot]
    digest (text lot) = digest (text other) → text lot = text other

structure Attributed (refs : String → StrategyRefs) (record : FundingFeeRecord)
    (lots : List PositionLot) (records : List SleevePnLRecord) : Prop where
  ids : (records.map (·.recordId)).Nodup
  sum : (records.map (·.fundingFeeAmount)).sum = record.amount
  zero : record.amount = 0 → ∀ r ∈ records, r.fundingFeeAmount = 0
  signed : ∀ r ∈ records.dropLast, SignedUpTo 0 record.amount r.fundingFeeAmount
  signedUpTo : ∀ r ∈ records,
    SignedUpTo ((records.length - 1) * epsilon12) record.amount r.fundingFeeAmount
  sleeves : ∀ sleeve, (∃ r ∈ records, r.strategySleeveId = some sleeve) ↔
    ∃ lot ∈ lots, sleeveOf refs lot = sleeve
  near : ∀ r ∈ records, ∀ sleeve, r.strategySleeveId = some sleeve →
    |r.fundingFeeAmount - record.amount * weightOf (lotsOfSleeve refs sleeve lots) / weightOf lots| ≤
      (records.length - 1) * epsilon12

section Attribution

variable {digest : String → String} {sources : SleeveSources} {record : FundingFeeRecord}
  {refs : String → StrategyRefs} {lots : List PositionLot} {slack total x y : ℚ}

theorem SignedUpTo.of_near (h : SignedUpTo 0 total y) (hnear : |x - y| ≤ slack) :
    SignedUpTo slack total x := by
  have hbounds := abs_le.mp hnear
  refine ⟨fun htotal => ?_, fun htotal => ?_⟩
  · linarith [h.1 htotal]
  · linarith [h.2 htotal]

theorem SignedUpTo.quantizeDecimal (h : SignedUpTo 0 total x) :
    SignedUpTo 0 total (quantizeDecimal x) := by
  refine ⟨fun htotal => ?_, fun htotal => quantizeDecimal_nonpos (h.2 htotal)⟩
  have hx := h.1 htotal
  rw [neg_zero] at hx ⊢
  exact quantizeDecimal_nonneg hx

theorem attributed_unassigned (type : AttributionType) :
    Attributed refs record [] [unassignedFundingFeeRecord digest record type] where
  ids := List.nodup_singleton _
  sum := by simp [unassignedFundingFeeRecord]
  zero := by simp [unassignedFundingFeeRecord]
  signed := by simp
  signedUpTo := by simp [SignedUpTo, unassignedFundingFeeRecord]
  sleeves := by simp [unassignedFundingFeeRecord]
  near := by simp [unassignedFundingFeeRecord]

theorem weightOf_pos (hweights : ∀ lot ∈ lots, epsilon12 < lotWeight lot) (hne : lots ≠ []) :
    epsilon12 < weightOf lots := by
  obtain ⟨lot, others, rfl⟩ := List.exists_cons_of_ne_nil hne
  have hothers : 0 ≤ weightOf others := by
    refine List.sum_nonneg fun weight hweight => ?_
    obtain ⟨other, hmem, rfl⟩ := List.mem_map.mp hweight
    exact (epsilon12_pos.trans (hweights other (List.mem_cons_of_mem _ hmem))).le
  have hlot := hweights lot List.mem_cons_self
  rw [weightOf, List.map_cons, List.sum_cons]
  exact lt_add_of_lt_of_nonneg hlot hothers

theorem sum_weightOf_groups (groups : List (String × List PositionLot)) :
    (groups.map fun group => weightOf group.2).sum = weightOf (groups.flatMap Prod.snd) := by
  induction groups with
  | nil => rfl
  | cons group groups ih =>
    rw [List.map_cons, List.sum_cons, ih, List.flatMap_cons, weightOf, weightOf, weightOf,
      List.map_append, List.sum_append]

theorem sum_weightOf_sortedGroups (refs : String → StrategyRefs) (lots : List PositionLot) :
    ((Grouping.sortedGroups (sleeveOf refs) lots).map fun group => weightOf group.2).sum =
      weightOf lots := by
  rw [sum_weightOf_groups]
  exact ((Grouping.perm_flatMap_sortedGroups (sleeveOf refs) lots).map lotWeight).sum_eq

theorem weightOf_nonneg (lots : List PositionLot) : 0 ≤ weightOf lots := by
  refine List.sum_nonneg fun weight hweight => ?_
  obtain ⟨lot, -, rfl⟩ := List.mem_map.mp hweight
  unfold lotWeight
  dsimp only
  split
  · exact abs_nonneg _
  · exact mul_nonneg (abs_nonneg _) (abs_nonneg _)

theorem signedUpTo_exactShare (amount : ℚ) (lots others : List PositionLot) :
    SignedUpTo 0 amount (amount * weightOf lots / weightOf others) := by
  have hlots := weightOf_nonneg lots
  have hothers := weightOf_nonneg others
  refine ⟨fun hamount => ?_, fun hamount => ?_⟩
  · rw [neg_zero]
    exact div_nonneg (mul_nonneg hamount hlots) hothers
  · exact div_nonpos_of_nonpos_of_nonneg (mul_nonpos_of_nonpos_of_nonneg hamount hlots) hothers

theorem sortedGroups_ne_nil (hne : lots ≠ []) : Grouping.sortedGroups (sleeveOf refs) lots ≠ [] := by
  intro hnil
  have hperm := Grouping.perm_flatMap_sortedGroups (sleeveOf refs) lots
  rw [hnil] at hperm
  exact hne hperm.symm.eq_nil

theorem exists_mem_of_group {group : String × List PositionLot}
    (hgroup : group ∈ Grouping.sortedGroups (sleeveOf refs) lots) :
    ∃ lot ∈ lots, sleeveOf refs lot = group.1 := by
  obtain ⟨heq, hne⟩ := Grouping.mem_sortedGroups.mp hgroup
  obtain ⟨lot, hlot⟩ := List.exists_mem_of_ne_nil _ hne
  rw [heq] at hlot
  exact ⟨lot, (List.mem_filter.mp hlot).1, of_decide_eq_true (List.mem_filter.mp hlot).2⟩

/-- The parts of the bill before they are rounded. -/
def exactShares (refs : String → StrategyRefs) (amount : ℚ) (lots : List PositionLot) : List ℚ :=
  (Grouping.sortedGroups (sleeveOf refs) lots).map fun group =>
    amount * weightOf group.2 / weightOf lots

theorem exactShares_ne_nil (hne : lots ≠ []) (amount : ℚ) : exactShares refs amount lots ≠ [] :=
  fun h => sortedGroups_ne_nil hne (List.map_eq_nil_iff.mp h)

theorem signedUpTo_of_mem_exactShares {amount part : ℚ} (h : part ∈ exactShares refs amount lots) :
    SignedUpTo 0 amount part := by
  obtain ⟨group, -, rfl⟩ := List.mem_map.mp h
  exact signedUpTo_exactShare _ _ _

theorem sum_exactShares (hweight : weightOf lots ≠ 0) (amount : ℚ) :
    (exactShares refs amount lots).sum = amount := by
  have hsum : ∀ groups : List (String × List PositionLot),
      (groups.map fun group => amount * weightOf group.2 / weightOf lots).sum =
        amount * (groups.map fun group => weightOf group.2).sum / weightOf lots := by
    intro groups
    induction groups with
    | nil => simp
    | cons group groups ih =>
      rw [List.map_cons, List.sum_cons, ih, List.map_cons, List.sum_cons]
      ring
  rw [exactShares, hsum, sum_weightOf_sortedGroups, mul_div_cancel_right₀ _ hweight]

/-- The exact shares leave nothing over, so that only the roundings are between them and the shares. -/
theorem forall₂_exactShares (hne : lots ≠ []) (hweight : weightOf lots ≠ 0) (amount : ℚ) :
    List.Forall₂
      (fun share part => |share - part| ≤ ((exactShares refs amount lots).length - 1) * epsilon12)
      (RemainderSplit.split quantizeDecimal amount (exactShares refs amount lots))
      (exactShares refs amount lots) := by
  have hsum := @sum_exactShares refs lots hweight amount
  obtain ⟨first, others, heq⟩ := List.exists_cons_of_ne_nil (@exactShares_ne_nil refs lots hne amount)
  rw [heq] at hsum ⊢
  have hsplit := @RemainderSplit.forall₂_split ℚ _ quantizeDecimal amount first others _ _
    epsilon12 0 abs_quantizeDecimal_sub (by rw [hsum, sub_self, abs_zero])
  rw [List.length_cons, Nat.cast_succ, add_sub_cancel_right]
  simpa only [zero_add] using hsplit

theorem nodup_recordIds {billId : String}
    (hdigest : ∀ lot ∈ lots, ∀ other ∈ lots,
      let text := fun lot => "|".intercalate [billId, sleeveOf refs lot]
      digest (text lot) = digest (text other) → text lot = text other) :
    ((Grouping.sortedGroups (sleeveOf refs) lots).map fun group =>
      stableId digest "sleevepnl_funding" [billId, group.1]).Nodup := by
  have hkeys := Grouping.pairwise_sortedGroups (sleeveOf refs) lots
  rw [List.Nodup, List.pairwise_map]
  refine hkeys.imp_of_mem fun {a b} ha hb hlt heq => hlt.ne ?_
  obtain ⟨lot, hlot, hsleeve⟩ := exists_mem_of_group ha
  obtain ⟨other, hother, hsleeve'⟩ := exists_mem_of_group hb
  have htext := hdigest lot hlot other hother
  dsimp only at htext
  rw [hsleeve, hsleeve'] at htext
  have hjoined := congrArg String.toList (htext ((String.append_right_inj _).mp heq))
  rw [joined_two, joined_two] at hjoined
  exact String.toList_inj.mp (List.cons_injective (List.append_cancel_left hjoined))

def recordsOf (digest : String → String) (sources : SleeveSources) (record : FundingFeeRecord)
    (total : ℚ) (groups : List (String × List PositionLot)) (shares : List ℚ) :
    List SleevePnLRecord :=
  (groups.zip shares).map fun entry =>
    sharedFundingFeeRecord digest sources record total entry.1.1 entry.1.2 entry.2

section

variable {groups : List (String × List PositionLot)} {shares : List ℚ}

theorem amounts_recordsOf (hlength : shares.length = groups.length) :
    (recordsOf digest sources record total groups shares).map (·.fundingFeeAmount) = shares := by
  rw [recordsOf, List.map_map]
  exact List.map_snd_zip hlength.le

theorem map_recordsOf {α : Type} {f : SleevePnLRecord → α} {g : String × List PositionLot → α}
    (hf : ∀ group share,
      f (sharedFundingFeeRecord digest sources record total group.1 group.2 share) = g group)
    (hlength : shares.length = groups.length) :
    (recordsOf digest sources record total groups shares).map f = groups.map g := by
  conv_rhs => rw [← List.map_fst_zip hlength.ge, List.map_map]
  rw [recordsOf, List.map_map]
  exact List.map_congr_left fun entry _ => hf entry.1 entry.2

end

theorem sharedRecords_nil : sharedRecords digest sources record [] =
    [unassignedFundingFeeRecord digest record .noMatchingInventoryWindow] := rfl

theorem length_shares (refs : String → StrategyRefs) (amount : ℚ) :
    (RemainderSplit.split quantizeDecimal amount (exactShares refs amount lots)).length =
      (Grouping.sortedGroups (sleeveOf refs) lots).length := by
  rw [RemainderSplit.length_split, exactShares, List.length_map]

section Shared

variable (hweights : ∀ lot ∈ lots, epsilon12 < lotWeight lot) (hne : lots ≠ [])
include hweights hne

theorem sharedRecords_eq : sharedRecords digest sources record lots =
    recordsOf digest sources record (weightOf lots) (Grouping.sortedGroups (sleeveOf sources.refs) lots)
      (RemainderSplit.split quantizeDecimal record.amount
        (exactShares sources.refs record.amount lots)) := by
  unfold sharedRecords
  dsimp only
  rw [sum_weightOf_sortedGroups, if_neg (sortedGroups_ne_nil hne),
    if_neg (not_le.mpr (weightOf_pos hweights hne))]
  rfl

theorem amounts_sharedRecords :
    (sharedRecords digest sources record lots).map (·.fundingFeeAmount) =
      RemainderSplit.split quantizeDecimal record.amount
        (exactShares sources.refs record.amount lots) := by
  rw [sharedRecords_eq hweights hne]
  exact amounts_recordsOf (length_shares _ _)

theorem sleeves_sharedRecords :
    (sharedRecords digest sources record lots).map (·.strategySleeveId) =
      (Grouping.sortedGroups (sleeveOf sources.refs) lots).map (some ·.1) := by
  rw [sharedRecords_eq hweights hne]
  exact map_recordsOf (fun _ _ => rfl) (length_shares _ _)

theorem near_of_mem_sharedRecords {r : SleevePnLRecord}
    (hr : r ∈ sharedRecords digest sources record lots) :
    ∃ group ∈ Grouping.sortedGroups (sleeveOf sources.refs) lots,
      r.strategySleeveId = some group.1 ∧
        |r.fundingFeeAmount - record.amount * weightOf group.2 / weightOf lots| ≤
          ((sharedRecords digest sources record lots).length - 1) * epsilon12 := by
  have hcount : (sharedRecords digest sources record lots).length =
      (exactShares sources.refs record.amount lots).length := by
    rw [← List.length_map (f := (·.strategySleeveId)), sleeves_sharedRecords hweights hne,
      List.length_map, exactShares, List.length_map]
  have hweight : weightOf lots ≠ 0 := (epsilon12_pos.trans (weightOf_pos hweights hne)).ne'
  have hnear := @forall₂_exactShares sources.refs lots hne hweight record.amount
  rw [← hcount] at hnear
  rw [sharedRecords_eq hweights hne] at hr
  obtain ⟨⟨group, share⟩, hmem, rfl⟩ := List.mem_map.mp hr
  have hgroups := List.forall₂_map_right_iff.mp hnear
  exact ⟨group, (List.of_mem_zip hmem).1, rfl, List.forall₂_zip hgroups.flip hmem⟩

theorem attributed_sharedRecords
    (hdigest : ∀ lot ∈ lots, ∀ other ∈ lots,
      let text := fun lot => "|".intercalate [record.billId, sleeveOf sources.refs lot]
      digest (text lot) = digest (text other) → text lot = text other) :
    Attributed sources.refs record lots (sharedRecords digest sources record lots) where
  ids := by
    rw [sharedRecords_eq hweights hne, map_recordsOf (fun _ _ => rfl) (length_shares _ _)]
    exact nodup_recordIds hdigest
  sum := by
    obtain ⟨first, others, heq⟩ := List.exists_cons_of_ne_nil
      (@exactShares_ne_nil sources.refs lots hne record.amount)
    rw [amounts_sharedRecords hweights hne, heq, RemainderSplit.sum_split]
  zero := by
    intro hzero r hr
    have hmem := List.mem_map_of_mem (f := (·.fundingFeeAmount)) hr
    rw [amounts_sharedRecords hweights hne, hzero] at hmem
    refine RemainderSplit.split_zero quantizeDecimal_zero (fun part hpart => ?_) hmem
    obtain ⟨group, -, rfl⟩ := List.mem_map.mp hpart
    rw [zero_mul, zero_div]
  signed := by
    intro r hr
    have hmem := List.mem_map_of_mem (f := (·.fundingFeeAmount)) hr
    rw [List.map_dropLast, amounts_sharedRecords hweights hne] at hmem
    obtain ⟨part, hpart, heq⟩ := RemainderSplit.mem_dropLast_split hmem
    rw [heq]
    exact (signedUpTo_of_mem_exactShares hpart).quantizeDecimal
  signedUpTo := by
    intro r hr
    obtain ⟨group, -, -, hnear⟩ := near_of_mem_sharedRecords hweights hne hr
    exact (signedUpTo_exactShare _ _ _).of_near hnear
  sleeves := by
    intro sleeve
    have hmem : (∃ r ∈ sharedRecords digest sources record lots, r.strategySleeveId = some sleeve) ↔
        some sleeve ∈ (sharedRecords digest sources record lots).map (·.strategySleeveId) :=
      List.mem_map.symm
    rw [hmem, sleeves_sharedRecords hweights hne]
    constructor
    · intro h
      obtain ⟨group, hgroup, hsome⟩ := List.mem_map.mp h
      exact Option.some.inj hsome ▸ exists_mem_of_group hgroup
    · rintro ⟨lot, hlot, rfl⟩
      refine List.mem_map.mpr ⟨(_, lotsOfSleeve sources.refs (sleeveOf sources.refs lot) lots), ?_, rfl⟩
      refine Grouping.mem_sortedGroups.mpr ⟨rfl, List.ne_nil_of_mem (a := lot) ?_⟩
      exact List.mem_filter.mpr ⟨hlot, decide_eq_true rfl⟩
  near := by
    intro r hr sleeve hsleeve
    obtain ⟨⟨other, group⟩, hgroup, hsome, hnear⟩ := near_of_mem_sharedRecords hweights hne hr
    obtain rfl : other = sleeve := Option.some.inj (hsome.symm.trans hsleeve)
    rwa [(Grouping.mem_sortedGroups.mp hgroup).1] at hnear

end Shared

theorem activeLotsAt_of_symbol_eq_empty (h : record.symbol = "") (fills : List FillRecord) :
    activeLotsAt refs record fills = [] := by
  have hfills : fillsForSymbol refs record fills = [] := by
    refine List.filter_eq_nil_iff.mpr fun fill hfill => ?_
    have hscope := (List.mem_filter.mp hfill).2
    simp [fillEventMatchesScope, RuntimeStateScope.symbolAllowed, RuntimeStateScope.symbols,
      FundingFeeRecord.scope, h] at hscope
  rw [activeLotsAt, hfills]

end Attribution

/-- Three sleeves with a notional of a million each, and one with next to nothing. -/
def fourSleeves : SleeveSources where
  fills := some <| [("a", 10 ^ 6), ("b", 10 ^ 6), ("c", 10 ^ 6), ("d", 1 / 10 ^ 7)].map fun entry =>
    { fillId := entry.1, symbol := "BTC-USDT-SWAP", side := .buy, fillQty := entry.2, fillPrice := 1,
      feeAmount := 0, productType := .derivatives, marginMode := .cross, exchangeTimestamp := 1,
      ingestionTimestamp := 1 }
  refs := fun fillId => { sleeveId := fillId }
  familyBySleeve := fun _ => none

def billOfTwo : FundingFeeRecord where
  billId := "bill"
  symbol := "BTC-USDT-SWAP"
  currency := "USDT"
  amount := 2
  createdAt := 2
  productType := .derivatives
  marginMode := .cross

end Aats.Portfolio
