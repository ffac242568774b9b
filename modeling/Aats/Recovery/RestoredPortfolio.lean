import Aats.Recovery.FillGaps

/-!
# What a recovery restores

A recovery from a stored snapshot should leave the portfolio in memory that the fills make on the
baseline, mark exactly these fills as applied, and report a divergence only if the snapshot did
not reflect all of them.

The comparison also looks at unrealized PnL, equity and exposure, which the rebuild takes at the
prices of the recovery and the snapshot has from the prices of its own time. So a snapshot that
reflects all fills counts as diverging once a price has moved. The portfolio itself is restored
in any case, apart from what a load drops as flat.
-/

namespace Aats.Recovery

open Portfolio
open Governance (KillSwitch)

/-! ### What a recovery should leave -/

/-- A portfolio has the balances, positions and realized PnL of a snapshot, up to the
tolerance. -/
structure Holds (state : PortfolioState) (snapshot : PortfolioSnapshot) : Prop where
  balances : ∀ currency,
    Close (state.balances.balance currency) (snapshot.balances.balance currency)
  quantities : ∀ key, Close (state.quantityOf key) (snapshot.quantityOf key)
  entryPrices : ∀ key, Close (state.avgEntryPriceOf key) (snapshot.avgEntryPriceOf key)
  realizedPnl : Close state.realizedPnl snapshot.realizedPnl

/-- The portfolio holds the rebuild, has exactly the fills applied, and no divergence is reported
exactly if the latest snapshot holds what the rebuild does. -/
structure Restores (fills : List FillRecord) (latest rebuilt : PortfolioSnapshot)
    (recovered : Recovered) : Prop where
  holds : Holds recovered.memory rebuilt
  applied : ∀ fillId, recovered.memory.hasAppliedFill fillId = true ↔
    ∃ fill ∈ fills, fill.fillId = fillId
  divergence : recovered.divergenceCount = 0 ↔ SameHoldings latest rebuilt

/-- A recovery returns and restores the rebuild of all fills on the baseline. -/
def RestoresPortfolio (inputs : PortfolioInputs) (decision : RecoveryInputs)
    (orders : List LedgerOrder) (ks : KillSwitch) : Prop :=
  ∀ latest, inputs.latestSnapshot = some latest → ∃ state recovered,
    rebuiltState inputs inputs.fills = .ok state ∧
    recover inputs decision orders ks = .ok recovered ∧
    Restores inputs.fills latest (rebuiltSnapshot inputs latest state) recovered

/-- The latest snapshot is what some of the fills make on the baseline, at some prices. -/
def SnapshotOfSubset (inputs : PortfolioInputs) : Prop :=
  ∀ latest, inputs.latestSnapshot = some latest →
    ∃ subset state prices origin fillId now, subset.Sublist inputs.fills ∧
      rebuiltState inputs subset = .ok state ∧
      latest = buildSnapshot prices origin fillId now inputs.productType inputs.marginMode state

/-! ### What a load keeps -/

/-- What is not loaded of a snapshot, because it counts as flat, is nothing to the rebuild. -/
def NothingFlatLost (loaded rebuilt : PortfolioSnapshot) : Prop :=
  ∀ key, isEffectivelyZero (loaded.quantityOf key) = true →
    Close 0 (rebuilt.quantityOf key) ∧ Close 0 (rebuilt.avgEntryPriceOf key)

theorem sameHoldings_refl (snapshot : PortfolioSnapshot) : SameHoldings snapshot snapshot :=
  ⟨fun _ => close_self _, fun _ => close_self _, fun _ => close_self _, close_self _⟩

theorem sameHoldings_buildSnapshot (state : PortfolioState) {prices prices' : PriceProvider}
    {origin origin' : SnapshotOrigin} {fillId fillId' : Option String}
    {now now' : Execution.Timestamp} {productType : ProductType} {marginMode : MarginMode} :
    SameHoldings (buildSnapshot prices origin fillId now productType marginMode state)
      (buildSnapshot prices' origin' fillId' now' productType marginMode state) where
  balances := by
    intro currency
    rw [balance_buildSnapshot, balance_buildSnapshot]
    exact close_self _
  quantities := by
    intro key
    rw [quantityOf_buildSnapshot, quantityOf_buildSnapshot]
    exact close_self _
  entryPrices := by
    intro key
    rw [avgEntryPriceOf_buildSnapshot, avgEntryPriceOf_buildSnapshot]
    exact close_self _
  realizedPnl := close_self _

section Prices

variable {prices prices' : PriceProvider} {state : PortfolioState}

end Prices

theorem holds_load_iff {loaded rebuilt : PortfolioSnapshot} (ids : Finset String) (fees : ℚ)
    (hsame : SameHoldings loaded rebuilt) :
    Holds (loadPortfolioSnapshot loaded ids fees) rebuilt ↔ NothingFlatLost loaded rebuilt := by
  constructor
  · intro h key hflat
    have hquantity := h.quantities key
    have hentry := h.entryPrices key
    rw [quantityOf_load, if_pos hflat] at hquantity
    rw [avgEntryPriceOf_load, if_pos hflat] at hentry
    exact ⟨hquantity, hentry⟩
  · intro h
    refine ⟨?_, ?_, ?_, hsame.realizedPnl⟩
    · intro currency
      rw [balance_load]
      exact hsame.balances currency
    · intro key
      rw [quantityOf_load]
      split
      · next hflat => exact (h key hflat).1
      · exact hsame.quantities key
    · intro key
      rw [avgEntryPriceOf_load]
      split
      · next hflat => exact (h key hflat).2
      · exact hsame.entryPrices key

theorem hasAppliedFill_load (snapshot : PortfolioSnapshot) (fills : List FillRecord) (fees : ℚ)
    (fillId : String) :
    (loadPortfolioSnapshot snapshot (appliedIds fills) fees).hasAppliedFill fillId = true ↔
      ∃ fill ∈ fills, fill.fillId = fillId := by
  rw [PortfolioState.hasAppliedFill_eq_true]
  simp [loadPortfolioSnapshot, appliedIds]

/-! ### When a recovery restores the portfolio -/

/-- The fees are supported; a snapshot that holds what the fills make also has their valuation at
the prices of the recovery; and nothing is lost as flat. -/
structure RestoresWhen (inputs : PortfolioInputs) (latest : PortfolioSnapshot) : Prop where
  fees : ∀ fill ∈ inputs.fills, FeeSupported fill.toFillEvent
  valuation : ∀ state, rebuiltState inputs inputs.fills = .ok state →
    SameHoldings latest (rebuiltSnapshot inputs latest state) →
    SameValuation latest (rebuiltSnapshot inputs latest state)
  latestFlat : ∀ state, rebuiltState inputs inputs.fills = .ok state →
    SameHoldings latest (rebuiltSnapshot inputs latest state) →
    NothingFlatLost latest (rebuiltSnapshot inputs latest state)
  rebuiltFlat : ∀ state, rebuiltState inputs inputs.fills = .ok state →
    ¬ SameHoldings latest (rebuiltSnapshot inputs latest state) →
    NothingFlatLost (rebuiltSnapshot inputs latest state) (rebuiltSnapshot inputs latest state)

section Adopted

variable {inputs : PortfolioInputs} {latest : PortfolioSnapshot} {state : PortfolioState}

theorem adopted_of_same
    (h : divergenceCount latest (rebuiltSnapshot inputs latest state) = 0) :
    adopted inputs latest state = latest := by
  unfold adopted
  rw [if_pos h]

theorem holds_load_adopted_iff {ids : Finset String} {fees : ℚ}
    (h : divergenceCount latest (rebuiltSnapshot inputs latest state) ≠ 0) :
    Holds (loadPortfolioSnapshot (adopted inputs latest state) ids fees)
        (rebuiltSnapshot inputs latest state) ↔
      NothingFlatLost (rebuiltSnapshot inputs latest state)
        (rebuiltSnapshot inputs latest state) := by
  have hload : loadPortfolioSnapshot (adopted inputs latest state) ids fees =
      loadPortfolioSnapshot (rebuiltSnapshot inputs latest state) ids fees := by
    unfold adopted
    rw [if_neg h]
    rfl
  rw [hload]
  exact holds_load_iff ids fees (sameHoldings_refl _)

end Adopted

theorem RecoveredFrom.restores_iff {inputs : PortfolioInputs} {latest : PortfolioSnapshot}
    {state : PortfolioState} {gaps : List Backfilled} {recovered : Recovered}
    (h : RecoveredFrom inputs latest state gaps recovered) :
    Restores inputs.fills latest (rebuiltSnapshot inputs latest state) recovered ↔
      (SameHoldings latest (rebuiltSnapshot inputs latest state) →
        SameValuation latest (rebuiltSnapshot inputs latest state) ∧
        NothingFlatLost latest (rebuiltSnapshot inputs latest state)) ∧
      (¬ SameHoldings latest (rebuiltSnapshot inputs latest state) →
        NothingFlatLost (rebuiltSnapshot inputs latest state)
          (rebuiltSnapshot inputs latest state)) := by
  obtain ⟨fees, hmemory⟩ := h.memory
  have hcount := h.divergence
  -- the recovery adopts the latest snapshot exactly if nothing diverges
  have hzero : divergenceCount latest (rebuiltSnapshot inputs latest state) = 0 ↔ _ :=
    divergenceCount_eq_zero
  constructor
  · intro hrestores
    have hdivergence := hrestores.divergence
    rw [hcount, hzero] at hdivergence
    have hholds := hrestores.holds
    rw [hmemory] at hholds
    constructor
    · intro hsame
      have hvaluation := (hdivergence.mpr hsame).2
      rw [adopted_of_same (hzero.mpr ⟨hsame, hvaluation⟩)] at hholds
      exact ⟨hvaluation, (holds_load_iff _ _ hsame).mp hholds⟩
    · intro hsame
      have hdiverges : divergenceCount latest (rebuiltSnapshot inputs latest state) ≠ 0 :=
        fun hnone => hsame (hzero.mp hnone).1
      exact (holds_load_adopted_iff hdiverges).mp hholds
  · rintro ⟨hreflected, hmissing⟩
    refine ⟨?_, ?_, ?_⟩
    · rw [hmemory]
      by_cases hsame : SameHoldings latest (rebuiltSnapshot inputs latest state)
      · obtain ⟨hvaluation, hflat⟩ := hreflected hsame
        rw [adopted_of_same (hzero.mpr ⟨hsame, hvaluation⟩)]
        exact (holds_load_iff _ _ hsame).mpr hflat
      · have hdiverges : divergenceCount latest (rebuiltSnapshot inputs latest state) ≠ 0 :=
          fun hnone => hsame (hzero.mp hnone).1
        exact (holds_load_adopted_iff hdiverges).mpr (hmissing hsame)
    · intro fillId
      rw [hmemory]
      exact hasAppliedFill_load _ _ _ _
    · rw [hcount, hzero]
      exact ⟨fun hboth => hboth.1, fun hsame => ⟨hsame, (hreflected hsame).1⟩⟩

/-- **When a recovery restores the portfolio**: exactly if fees are supported, the prices have not
moved under a snapshot that reflects all fills, and nothing is lost as flat. -/
theorem restoresPortfolio_iff (inputs : PortfolioInputs) (decision : RecoveryInputs)
    (orders : List LedgerOrder) (ks : KillSwitch) :
    RestoresPortfolio inputs decision orders ks ↔
      ∀ latest, inputs.latestSnapshot = some latest → RestoresWhen inputs latest := by
  constructor
  · intro h latest hlatest
    obtain ⟨state, recovered, hstate, hrecovered, hrestores⟩ := h latest hlatest
    obtain ⟨rebuilt, gaps, hfees, hrebuilt, -, hfrom⟩ := recover_of_latest hlatest hrecovered
    cases hstate.symm.trans hrebuilt
    obtain ⟨hreflected, hmissing⟩ := hfrom.restores_iff.mp hrestores
    refine ⟨hfees, ?_, ?_, ?_⟩
    · intro other hother hsame
      cases hstate.symm.trans hother
      exact (hreflected hsame).1
    · intro other hother hsame
      cases hstate.symm.trans hother
      exact (hreflected hsame).2
    · intro other hother hsame
      cases hstate.symm.trans hother
      exact hmissing hsame
  · intro h latest hlatest
    have hwhen := h latest hlatest
    obtain ⟨recovered, hrecovered⟩ := (recover_isOk hlatest).mpr hwhen.fees
    obtain ⟨state, gaps, -, hstate, -, hfrom⟩ := recover_of_latest hlatest hrecovered
    refine ⟨state, recovered, hstate, hrecovered, hfrom.restores_iff.mpr ⟨?_, ?_⟩⟩
    · intro hsame
      exact ⟨hwhen.valuation state hstate hsame, hwhen.latestFlat state hstate hsame⟩
    · intro hsame
      exact hwhen.rebuiltFlat state hstate hsame

/-! ### A price that moves -/

def boughtContract : FillRecord where
  fillId := "f1"
  symbol := "BTC-USDT-SWAP"
  productType := .derivatives
  marginMode := .cross
  side := .buy
  fillQty := 1
  fillPrice := 100
  feeAmount := 0
  exchangeTimestamp := 1
  ingestionTimestamp := 1

def contractState : PortfolioState :=
  (replay (initialState 1000) [boughtContract.toFillEvent]).toOption.getD {}

/-- The snapshot taken at the price of the fill, and a recovery at a higher price. -/
def movedPrice : PortfolioInputs where
  reconstructionInitialBalance := 1000
  effectiveInitialBalance := 1000
  livePrice := fun _ => 110
  now := 5
  fills := [boughtContract]
  nodup_fillId := by decide
  history :=
    [buildSnapshot (fun _ => 100) .fillDerived (some "f1") 2 .derivatives .cross contractState]

def contractDecision : RecoveryInputs where
  scope :=
    { productType := .derivatives
      marginMode := .cross
      allowedSymbols := ["BTC-USDT-SWAP"]
      defaultSymbol := "BTC-USDT-SWAP" }
  reconciliationStaleAfter := 60
  now := 5

theorem rebuiltState_movedPrice : rebuiltState movedPrice [boughtContract] = .ok contractState := by
  decide +kernel

/-- **A snapshot that reflects all fills diverges once the price has moved.** -/
theorem moved_price_diverges :
    ¬ ∀ inputs decision orders ks, SnapshotOfSubset inputs →
      RestoresPortfolio inputs decision orders ks := by
  intro h
  have hsubset : SnapshotOfSubset movedPrice := by
    intro latest hlatest
    cases hlatest
    exact ⟨_, _, _, _, _, _, List.Sublist.refl _, rebuiltState_movedPrice, rfl⟩
  obtain ⟨state, recovered, hstate, hrecovered, hrestores⟩ :=
    h movedPrice contractDecision [] (KillSwitch.initial "ksgen" 0) hsubset _ rfl
  cases rebuiltState_movedPrice.symm.trans hstate
  obtain ⟨other, gaps, -, hother, -, hfrom⟩ := recover_of_latest rfl hrecovered
  cases hstate.symm.trans hother
  have hnone := hrestores.divergence.mpr (sameHoldings_buildSnapshot contractState)
  rw [hfrom.divergence] at hnone
  revert hnone
  decide +kernel

end Aats.Recovery
