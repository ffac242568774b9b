import Aats.Portfolio.Rounding
import Aats.Recovery.SnapshotRepair
import Aats.Reconciliation.Findings

/-!
# Fills that arrive out of order

The live portfolio applies fills as they arrive, a rebuild in the order of their execution.
Quantities and the cash of spot fills and fees do not depend on the order. A derivatives fill
moves the trading PnL it realizes at the average cost, and that does: in two orders the balances
differ by the difference of the realized PnL, which is the difference of the cost of what is held.

## Main results
* `lateFillEffect` — for all fills on a grid and any order of arrival.
-/

namespace Aats.Reconciliation

open Holdings
open Portfolio
open Recovery (initialState rebuildState orderedFills Shows replay_isOk_iff)

/-! ### Applying fills one after the other -/

def arrivedState (usdt : ℚ) (arrived : List FillRecord) :
    Except UnsupportedFeeCurrencyError PortfolioState :=
  Portfolio.replay (initialState usdt) (arrived.map FillRecord.toFillEvent)

/-- What each fill returns that is applied in this order. -/
def effectsAfter (usdt : ℚ) (fills : List FillRecord) : List Effect :=
  (bookAll (initialState usdt).balances (fills.map FillRecord.toFillEvent)).effects

theorem foldl_apply_of_replay {booked : Booked} {fills : List FillEvent} {final : PortfolioState}
    (h : Portfolio.replay booked.state fills = .ok final) :
    (fills.foldl Booked.apply booked).state = final := by
  induction fills generalizing booked with
  | nil =>
    rw [replay_nil, Except.ok.injEq] at h
    exact h
  | cons fill fills ih =>
    rw [Portfolio.replay] at h
    rw [List.foldl_cons]
    apply ih
    cases happly : booked.state.applyFill fill with
    | error e =>
      rw [happly] at h
      cases h
    | ok outcome =>
      rw [happly] at h
      unfold Booked.apply
      rw [happly]
      exact h

def SettlesIn (currency : String) (fill : FillEvent) : Prop :=
  fill.productType = .derivatives ∧ quoteOf fill = some currency

instance (currency : String) (fill : FillEvent) : Decidable (SettlesIn currency fill) :=
  inferInstanceAs (Decidable (_ ∧ _))

def settlingFills (fills : List FillRecord) (currency : String) : List FillRecord :=
  fills.filter (fun fill => SettlesIn currency fill.toFillEvent)

def settledPnl (effects : List Effect) (currency : String) : ℚ :=
  ((settledIn currency effects).map tradingPnl).sum

theorem flow_eq (effects : List Effect) (currency : String) :
    flow effects currency =
      ((effects.map Prod.fst).map (fun fill => spotFlow fill currency - feeFlow fill currency)).sum +
        settledPnl effects currency := by
  unfold flow settledPnl settledIn
  induction effects with
  | nil => simp
  | cons effect effects ih =>
    rw [List.map_cons, List.sum_cons, ih, List.map_cons, List.map_cons, List.sum_cons,
      List.filter_cons, pnlFlow]
    by_cases hsettles : effect.1.productType = .derivatives ∧ quoteOf effect.1 = some currency
    · rw [if_pos hsettles, if_pos (decide_eq_true hsettles), List.map_cons, List.sum_cons]
      ring
    · rw [if_neg hsettles, if_neg (by simpa using hsettles)]
      ring

/-- What the spot legs and the fees of fills move of a currency. -/
def cashFlow (fills : List FillRecord) (currency : String) : ℚ :=
  (fills.map fun fill =>
    spotFlow fill.toFillEvent currency - feeFlow fill.toFillEvent currency).sum

structure Accounted (usdt : ℚ) (fills : List FillRecord) (state : PortfolioState) : Prop where
  effects : (effectsAfter usdt fills).map Prod.fst = fills.map FillRecord.toFillEvent
  quantity : ∀ key, state.quantityOf key = netQuantity (fillTrades key fills)
  pnl : ∀ key, cumulatedPnl key (effectsAfter usdt fills) =
    state.quantityOf key * state.avgEntryPriceOf key - cashSpent (fillTrades key fills)
  balance : ∀ currency,
    |state.balances.balance currency - (initialState usdt).balances.balance currency -
      (cashFlow fills currency + settledPnl (effectsAfter usdt fills) currency)| ≤
      epsilon12 * (settlingFills fills currency).length

theorem length_settledIn {effects : List Effect} {fills : List FillRecord}
    (h : effects.map Prod.fst = fills.map FillRecord.toFillEvent) (currency : String) :
    (settledIn currency effects).length = (settlingFills fills currency).length := by
  have heffects : ((effects.map Prod.fst).filter (fun fill => SettlesIn currency fill)).length =
      (settledIn currency effects).length := by
    rw [List.filter_map, List.length_map]
    rfl
  rw [← heffects, h, List.filter_map, List.length_map]
  rfl

theorem accounted_of_arrived {usdt step : ℚ} {fills : List FillRecord} {state : PortfolioState}
    (hnodup : (fills.map (·.fillId)).Nodup) (hstep : epsilon12 < step)
    (hgrid : ∀ fill ∈ fills, OnGrid step fill.fillQty)
    (hstate : arrivedState usdt fills = .ok state) : Accounted usdt fills state := by
  have hids : ((fills.map FillRecord.toFillEvent).map (·.fillId)).Nodup := by
    rw [List.map_map]
    exact hnodup
  have hsupported : ∀ fill ∈ fills, FeeSupported fill.toFillEvent := by
    have hall := (replay_isOk_iff hids fun fill _ => Finset.notMem_empty _).mp ⟨state, hstate⟩
    exact fun fill hmem => hall _ (List.mem_map_of_mem hmem)
  have hbooked : (bookAll (initialState usdt).balances (fills.map FillRecord.toFillEvent)).state =
      state := by
    have hstart : Portfolio.replay ({ state := initialState usdt } : Booked).state
        (fills.map FillRecord.toFillEvent) = .ok state := hstate
    exact foldl_apply_of_replay hstart
  have heffects := (bookAll_map_distinct (initialState usdt).balances hnodup hsupported).1
  have hconsistent := consistent_bookAll_map (initialState usdt).balances hstep hgrid
  have htrades : ∀ key, tradesOf key (effectsAfter usdt fills) = fillTrades key fills :=
    tradesOf_of_effects heffects
  refine ⟨heffects, ?_, ?_, ?_⟩
  · intro key
    have hquantity := (hconsistent.holding key).quantity_eq
    rw [← htrades key, ← hbooked]
    exact hquantity
  · intro key
    have hprofit := (hconsistent.holding key).profit_eq
    rw [← htrades key, ← hbooked]
    exact hprofit
  · intro currency
    have hbalance := hconsistent.balance currency
    rw [hbooked, flow_eq, heffects, List.map_map, length_settledIn heffects] at hbalance
    exact hbalance

/-! ### The same fills in two orders -/

def settlingKeys (fills : List FillRecord) (currency : String) : Finset String :=
  positionKeys (settlingFills fills currency)

/-- No other fill has one of these position keys. -/
def Unshared (fills : List FillRecord) (currency : String) : Prop :=
  ∀ fill ∈ fills, positionKeyForFill fill.toFillEvent ∈ settlingKeys fills currency →
    SettlesIn currency fill.toFillEvent

/-- The cost of what is held of the positions whose PnL settles in a currency. -/
def openCost (fills : List FillRecord) (state : PortfolioState) (currency : String) : ℚ :=
  ∑ key ∈ settlingKeys fills currency, state.quantityOf key * state.avgEntryPriceOf key

section Orders

variable {left right : List FillRecord} (hperm : left.Perm right)

include hperm

theorem cashFlow_perm (currency : String) : cashFlow left currency = cashFlow right currency :=
  (hperm.map _).sum_eq

theorem length_settlingFills_perm (currency : String) :
    (settlingFills left currency).length = (settlingFills right currency).length :=
  (hperm.filter _).length_eq

theorem netQuantity_perm (key : String) :
    netQuantity (fillTrades key left) = netQuantity (fillTrades key right) :=
  (((hperm.filter _).map _).map _).sum_eq

theorem cashSpent_perm (key : String) :
    cashSpent (fillTrades key left) = cashSpent (fillTrades key right) :=
  (((hperm.filter _).map _).map _).sum_eq

theorem settlingKeys_perm (currency : String) :
    settlingKeys left currency = settlingKeys right currency := by
  unfold settlingKeys positionKeys
  exact List.toFinset_eq_of_perm _ _ ((hperm.filter _).map _)

end Orders

/-- The settled PnL is that of the position keys, if nothing else is kept under them. -/
theorem Accounted.settledPnl_eq {usdt : ℚ} {fills : List FillRecord} {state : PortfolioState}
    (h : Accounted usdt fills state) {currency : String} (hunshared : Unshared fills currency) :
    settledPnl (effectsAfter usdt fills) currency = openCost fills state currency -
      ∑ key ∈ settlingKeys fills currency, cashSpent (fillTrades key fills) := by
  have hfill : ∀ effect ∈ effectsAfter usdt fills, ∃ fill ∈ fills, fill.toFillEvent = effect.1 := by
    intro effect hmem
    have hin : effect.1 ∈ fills.map FillRecord.toFillEvent := by
      rw [← h.effects]
      exact List.mem_map_of_mem hmem
    exact List.mem_map.mp hin
  have hkeys : ∀ effect ∈ settledIn currency (effectsAfter usdt fills),
      positionKeyForFill effect.1 ∈ settlingKeys fills currency := by
    intro effect hmem
    obtain ⟨hin, hsettles⟩ := List.mem_filter.mp hmem
    obtain ⟨fill, hmemFill, heq⟩ := hfill effect hin
    unfold settlingKeys
    rw [mem_positionKeys]
    refine ⟨fill, List.mem_filter.mpr ⟨hmemFill, ?_⟩, by rw [heq]⟩
    rw [heq]
    exact hsettles
  -- under a key of these all fills settle, so that its effects are all of its trading PnL
  have hsame : ∀ key ∈ settlingKeys fills currency,
      (settledIn currency (effectsAfter usdt fills)).filter
        (fun effect => positionKeyForFill effect.1 = key) = effectsOf key (effectsAfter usdt fills) := by
    intro key hkey
    unfold settledIn effectsOf
    rw [List.filter_filter]
    apply List.filter_congr
    intro effect hin
    obtain ⟨fill, hmemFill, heq⟩ := hfill effect hin
    by_cases hk : positionKeyForFill effect.1 = key
    · have hsettles : SettlesIn currency effect.1 := by
        rw [← heq]
        apply hunshared fill hmemFill
        rw [heq, hk]
        exact hkey
      rw [decide_eq_true hk, Bool.true_and]
      exact decide_eq_true hsettles
    · rw [decide_eq_false hk, Bool.false_and]
  unfold settledPnl openCost
  rw [sum_by_key (fun effect : Effect => positionKeyForFill effect.1) tradingPnl
    (settlingKeys fills currency) hkeys, ← Finset.sum_sub_distrib]
  apply Finset.sum_congr rfl
  intro key hkey
  rw [hsame key hkey, ← h.pnl key]
  rfl

/-- **Two orders of the same fills** leave the same quantities, and balances that differ by the
settled PnL only. -/
structure OrdersAgree (usdt : ℚ) (left right : List FillRecord) (first second : PortfolioState) :
    Prop where
  quantity : ∀ key, first.quantityOf key = second.quantityOf key
  unsettled : ∀ currency, settlingFills left currency = [] →
    first.balances.balance currency = second.balances.balance currency
  balance : ∀ currency,
    |(first.balances.balance currency - second.balances.balance currency) -
      (settledPnl (effectsAfter usdt left) currency -
        settledPnl (effectsAfter usdt right) currency)| ≤
      2 * epsilon12 * (settlingFills left currency).length
  openCost : ∀ currency, Unshared left currency →
    settledPnl (effectsAfter usdt left) currency - settledPnl (effectsAfter usdt right) currency =
      openCost left first currency - openCost left second currency
  flat : ∀ currency, Unshared left currency →
    (∀ key ∈ settlingKeys left currency, first.quantityOf key = 0) →
    settledPnl (effectsAfter usdt left) currency = settledPnl (effectsAfter usdt right) currency

section Accounts

variable {usdt : ℚ} {left right : List FillRecord} {first second : PortfolioState}

theorem Accounted.abs_balance_sub_le (hperm : left.Perm right) (hfirst : Accounted usdt left first)
    (hsecond : Accounted usdt right second) (currency : String) :
    |(first.balances.balance currency - second.balances.balance currency) -
      (settledPnl (effectsAfter usdt left) currency -
        settledPnl (effectsAfter usdt right) currency)| ≤
      2 * epsilon12 * (settlingFills left currency).length := by
  have hone := hfirst.balance currency
  have htwo := hsecond.balance currency
  rw [← cashFlow_perm hperm, ← length_settlingFills_perm hperm] at htwo
  rw [abs_le] at hone htwo ⊢
  constructor
  · linarith [hone.1, htwo.2]
  · linarith [hone.2, htwo.1]

theorem Accounted.settledPnl_sub_eq (hperm : left.Perm right) (hfirst : Accounted usdt left first)
    (hsecond : Accounted usdt right second) {currency : String}
    (hunshared : Unshared left currency) :
    settledPnl (effectsAfter usdt left) currency - settledPnl (effectsAfter usdt right) currency =
      openCost left first currency - openCost left second currency := by
  have hunsharedRight : Unshared right currency := by
    intro fill hmem hkey
    rw [← settlingKeys_perm hperm] at hkey
    exact hunshared fill (hperm.mem_iff.mpr hmem) hkey
  have hspent : ∑ key ∈ settlingKeys left currency, cashSpent (fillTrades key left) =
      ∑ key ∈ settlingKeys left currency, cashSpent (fillTrades key right) :=
    Finset.sum_congr rfl fun key _ => cashSpent_perm hperm key
  have hright : openCost right second currency = openCost left second currency := by
    unfold openCost
    rw [settlingKeys_perm hperm]
  rw [hfirst.settledPnl_eq hunshared, hsecond.settledPnl_eq hunsharedRight, hspent, hright,
    ← settlingKeys_perm hperm]
  ring

theorem ordersAgree_of_accounted (hperm : left.Perm right) (hfirst : Accounted usdt left first)
    (hsecond : Accounted usdt right second) : OrdersAgree usdt left right first second := by
  have hquantity : ∀ key, first.quantityOf key = second.quantityOf key := by
    intro key
    rw [hfirst.quantity, hsecond.quantity, netQuantity_perm hperm]
  refine ⟨hquantity, ?_, hfirst.abs_balance_sub_le hperm hsecond,
    fun _ => hfirst.settledPnl_sub_eq hperm hsecond, ?_⟩
  · intro currency hnone
    have hexact := hfirst.abs_balance_sub_le hperm hsecond currency
    have hleft : settledIn currency (effectsAfter usdt left) = [] := by
      rw [← List.length_eq_zero_iff, length_settledIn hfirst.effects, hnone, List.length_nil]
    have hright : settledIn currency (effectsAfter usdt right) = [] := by
      rw [← List.length_eq_zero_iff, length_settledIn hsecond.effects,
        ← length_settlingFills_perm hperm, hnone, List.length_nil]
    unfold settledPnl at hexact
    rw [hleft, hright, hnone, List.length_nil, Nat.cast_zero, mul_zero, abs_nonpos_iff] at hexact
    simpa [sub_eq_zero] using hexact
  · intro currency hunshared hflat
    have hzero : openCost left first currency = openCost left second currency := by
      unfold openCost
      apply Finset.sum_congr rfl
      intro key hkey
      rw [← hquantity key, hflat key hkey, zero_mul, zero_mul]
    have hdiff := hfirst.settledPnl_sub_eq hperm hsecond hunshared
    rw [hzero, sub_self] at hdiff
    exact sub_eq_zero.mp hdiff

end Accounts

/-! ### What a comparison sees of it -/

theorem abs_quantizeDecimal_sub_quantizeDecimal (x y : ℚ) :
    |quantizeDecimal x - quantizeDecimal y| ≤ |x - y| + 2 * epsilon12 := by
  have hx := abs_le.mp (abs_quantizeDecimal_sub x)
  have hy := abs_le.mp (abs_quantizeDecimal_sub y)
  have hlower := neg_abs_le (x - y)
  have hupper := le_abs_self (x - y)
  rw [abs_le]
  constructor
  · linarith [hx.1, hy.2]
  · linarith [hx.2, hy.1]

/-- The balances of two orders differ so little that rounding included no comparison sees it. -/
def Negligible (usdt : ℚ) (left right : List FillRecord) (currency : String) : Prop :=
  settlingFills left currency = [] ∨
    |settledPnl (effectsAfter usdt left) currency - settledPnl (effectsAfter usdt right) currency| +
      (2 * (settlingFills left currency).length + 2) * epsilon12 ≤ epsilon9

/-- **No mismatch is reconstructed** because of the order of fills: never of positions, and none of
balances if the settled PnL is the same. -/
theorem OrdersAgree.no_mismatch {usdt : ℚ} {left right : List FillRecord}
    {first second : PortfolioState} (h : OrdersAgree usdt left right first second)
    {inputs : CompareInputs} (hstored : Shows inputs.storedSnapshot first)
    (hreconstructed : Shows inputs.reconstructedSnapshot second) :
    inputs.diffs.position.reconstructedMismatches = [] ∧
    ((∀ currency, Negligible usdt left right currency) → inputs.diffs.localPortfolio = false) := by
  have hpositions : inputs.diffs.position.reconstructedMismatches = [] := by
    unfold CompareInputs.diffs
    rw [reconstructedMismatches_eq_nil]
    intro key
    rw [hstored.quantity, hreconstructed.quantity, h.quantity key, sub_self, abs_zero]
    exact epsilon12_pos.le
  refine ⟨hpositions, ?_⟩
  intro hnegligible
  have hbalances : inputs.diffs.balance.reconstructed = [] := by
    unfold CompareInputs.diffs
    rw [balanceDiff_reconstructed_eq_nil]
    intro currency
    rw [hstored.balance, hreconstructed.balance]
    rcases hnegligible currency with hnone | hsmall
    · rw [h.unsettled currency hnone, sub_self, abs_zero]
      exact epsilon9_pos.le
    · have hexact := h.balance currency
      have hpnl := abs_sub_abs_le_abs_sub
        (first.balances.balance currency - second.balances.balance currency)
        (settledPnl (effectsAfter usdt left) currency -
          settledPnl (effectsAfter usdt right) currency)
      have hround := abs_quantizeDecimal_sub_quantizeDecimal (first.balances.balance currency)
        (second.balances.balance currency)
      linarith
  unfold Diffs.localPortfolio
  rw [hpositions, hbalances]
  rfl

/-- What the late arrival of fills does to a portfolio and the reports about it. -/
structure LateFillEffect (usdt : ℚ) (arrived fills : List FillRecord) : Prop where
  /-- Both orders can be applied or none, -/
  applicable : (∃ live, arrivedState usdt arrived = .ok live) ↔
    ∃ rebuilt, rebuildState usdt fills = .ok rebuilt
  /-- and what they leave differs by the settled PnL only. -/
  agree : ∀ live rebuilt, arrivedState usdt arrived = .ok live →
    rebuildState usdt fills = .ok rebuilt →
    OrdersAgree usdt arrived (sortedFills fills) live rebuilt
  /-- No report shows a position, nor a balance if the settled PnL is the same. -/
  quiet : ∀ live rebuilt, arrivedState usdt arrived = .ok live →
    rebuildState usdt fills = .ok rebuilt →
    ∀ inputs : CompareInputs, Shows inputs.storedSnapshot live →
      Shows inputs.reconstructedSnapshot rebuilt →
      inputs.diffs.position.reconstructedMismatches = [] ∧
      ((∀ currency, Negligible usdt arrived (sortedFills fills) currency) →
        inputs.diffs.localPortfolio = false)

/-- **Fills that arrive out of order**: for every order of arrival of distinct fills on a grid. -/
theorem lateFillEffect (usdt : ℚ) {step : ℚ} {arrived fills : List FillRecord}
    (hperm : arrived.Perm fills) (hnodup : (fills.map (·.fillId)).Nodup) (hstep : epsilon12 < step)
    (hgrid : ∀ fill ∈ fills, OnGrid step fill.fillQty) : LateFillEffect usdt arrived fills := by
  have hsorted : arrived.Perm (sortedFills fills) := hperm.trans (sortedFills_perm fills).symm
  have hnodupArrived : (arrived.map (·.fillId)).Nodup := (hperm.map _).nodup_iff.mpr hnodup
  have hnodupSorted : ((sortedFills fills).map (·.fillId)).Nodup :=
    (hsorted.map _).nodup_iff.mp hnodupArrived
  have hagree : ∀ live rebuilt, arrivedState usdt arrived = .ok live →
      rebuildState usdt fills = .ok rebuilt →
      OrdersAgree usdt arrived (sortedFills fills) live rebuilt := by
    intro live rebuilt hlive hrebuilt
    have hgridArrived : ∀ fill ∈ arrived, OnGrid step fill.fillQty :=
      fun fill hmem => hgrid fill (hperm.mem_iff.mp hmem)
    have hgridSorted : ∀ fill ∈ sortedFills fills, OnGrid step fill.fillQty :=
      fun fill hmem => hgrid fill (mem_sortedFills.mp hmem)
    exact ordersAgree_of_accounted hsorted
      (accounted_of_arrived hnodupArrived hstep hgridArrived hlive)
      (accounted_of_arrived hnodupSorted hstep hgridSorted hrebuilt)
  refine ⟨?_, hagree, ?_⟩
  · -- whether fills can be applied depends on their fees alone, not on their order
    have hids : ∀ items : List FillRecord, (items.map (·.fillId)).Nodup →
        ((items.map FillRecord.toFillEvent).map (·.fillId)).Nodup := by
      intro items hitems
      rw [List.map_map]
      exact hitems
    unfold arrivedState rebuildState orderedFills
    rw [replay_isOk_iff (hids _ hnodupArrived) fun fill _ => Finset.notMem_empty _,
      replay_isOk_iff (hids _ hnodupSorted) fun fill _ => Finset.notMem_empty _]
    constructor
    · intro hall fill hmem
      exact hall fill ((hsorted.map _).mem_iff.mpr hmem)
    · intro hall fill hmem
      exact hall fill ((hsorted.map _).mem_iff.mp hmem)
  · intro live rebuilt hlive hrebuilt inputs hstored hreconstructed
    exact (hagree live rebuilt hlive hrebuilt).no_mismatch hstored hreconstructed

def swapFill (fillId : String) (side : Side) (price : ℚ) (time : Execution.Timestamp) : FillRecord where
  fillId := fillId
  symbol := "BTC-USDT-SWAP"
  side := side
  fillQty := 1
  fillPrice := price
  feeAmount := 0
  productType := .derivatives
  exchangeTimestamp := time
  ingestionTimestamp := time

/-- A buy, a second buy that was executed last, and a sell that arrives late. -/
def lateSell : List FillRecord :=
  [swapFill "f1" .buy 100 1, swapFill "f3" .buy 120 3, swapFill "f2" .sell 110 2]

theorem lateFillEffect_lateSell : LateFillEffect 1000 lateSell lateSell := by
  have hgrid : ∀ fill ∈ lateSell, OnGrid 1 fill.fillQty := by
    intro fill hmem
    simp only [lateSell, List.mem_cons, List.not_mem_nil, or_false] at hmem
    rcases hmem with rfl | rfl | rfl
    · exact ⟨1, by norm_num [swapFill]⟩
    · exact ⟨1, by norm_num [swapFill]⟩
    · exact ⟨1, by norm_num [swapFill]⟩
  exact lateFillEffect 1000 (List.Perm.refl lateSell) (by decide)
    (show epsilon12 < 1 by norm_num [epsilon12]) hgrid

def spotBuy (fillId : String) (quantity : ℚ) (time : Execution.Timestamp) : FillRecord where
  fillId := fillId
  symbol := "BTC-USDT"
  side := .buy
  fillQty := quantity
  fillPrice := 100
  feeAmount := 0
  exchangeTimestamp := time
  ingestionTimestamp := time

/-- Two buys of dust that arrive after a buy that was executed later. -/
def lateDust : List FillRecord :=
  [spotBuy "f3" 1 3, spotBuy "f1" (1 / 10 ^ 12) 1, spotBuy "f2" (1 / 10 ^ 12) 2]

theorem exists_states (figure : PortfolioState → ℚ) {usdt first second : ℚ}
    {fills : List FillRecord}
    (hlive : (arrivedState usdt fills).toOption.map figure = some first)
    (hrebuilt : (rebuildState usdt fills).toOption.map figure = some second) :
    ∃ live rebuilt, arrivedState usdt fills = .ok live ∧ rebuildState usdt fills = .ok rebuilt ∧
      figure live = first ∧ figure rebuilt = second := by
  cases hfirst : arrivedState usdt fills with
  | error e =>
    rw [hfirst] at hlive
    cases hlive
  | ok live =>
    cases hsecond : rebuildState usdt fills with
    | error e =>
      rw [hsecond] at hrebuilt
      cases hrebuilt
    | ok rebuilt =>
      rw [hfirst] at hlive
      rw [hsecond] at hrebuilt
      exact ⟨live, rebuilt, rfl, rfl, Option.some.inj hlive, Option.some.inj hrebuilt⟩

/-- **The order of arrival matters**: a late sell of a swap leaves another balance than the
rebuild, and late dust another quantity. -/
theorem late_fill_moves_balance :
    (¬ ∀ (usdt : ℚ) (arrived fills : List FillRecord), arrived.Perm fills →
      (fills.map (·.fillId)).Nodup → ∀ live rebuilt, arrivedState usdt arrived = .ok live →
      rebuildState usdt fills = .ok rebuilt → ∀ currency,
      |live.balances.balance currency - rebuilt.balances.balance currency| ≤ epsilon9) ∧
    (¬ ∀ (usdt : ℚ) (arrived fills : List FillRecord), arrived.Perm fills →
      (fills.map (·.fillId)).Nodup → ∀ live rebuilt, arrivedState usdt arrived = .ok live →
      rebuildState usdt fills = .ok rebuilt → ∀ key, live.quantityOf key = rebuilt.quantityOf key) := by
  constructor
  · intro hall
    obtain ⟨live, rebuilt, hlive, hrebuilt, hfirst, hsecond⟩ :
        ∃ live rebuilt, arrivedState 1000 lateSell = .ok live ∧
          rebuildState 1000 lateSell = .ok rebuilt ∧ live.balances.balance "USDT" = 1000 ∧
          rebuilt.balances.balance "USDT" = 1010 :=
      exists_states (fun state => state.balances.balance "USDT") (by decide +kernel)
        (by decide +kernel)
    have hclose := hall 1000 lateSell lateSell (List.Perm.refl _) (by decide) live rebuilt hlive
      hrebuilt "USDT"
    rw [hfirst, hsecond] at hclose
    norm_num [epsilon9] at hclose
  · intro hall
    obtain ⟨live, rebuilt, hlive, hrebuilt, hfirst, hsecond⟩ :
        ∃ live rebuilt, arrivedState 1000 lateDust = .ok live ∧
          rebuildState 1000 lateDust = .ok rebuilt ∧
          live.quantityOf "BTC-USDT" = 1 + 2 / 10 ^ 12 ∧ rebuilt.quantityOf "BTC-USDT" = 1 :=
      exists_states (fun state => state.quantityOf "BTC-USDT") (by decide +kernel)
        (by decide +kernel)
    have hsame := hall 1000 lateDust lateDust (List.Perm.refl _) (by decide) live rebuilt hlive
      hrebuilt "BTC-USDT"
    rw [hfirst, hsecond] at hsame
    norm_num at hsame

end Aats.Reconciliation
