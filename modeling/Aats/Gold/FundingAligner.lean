import Aats.Execution.OrderStateMachine
import Aats.Lib.AsOf

/-!
# Aligning funding rates with bars

`data_platform/gold/funding_aligner.py`: every bar of a swap gets the most recent funding rate at or
before it. The alignment sorts bars and events and moves one pointer through the events; the
loader reads the events of the window of the bars and the last one before it.

## Main definitions
* `SilverFunding` — the table, in which a symbol has one event at a time.
* `alignFundingToBars`, `loadSilverFunding` — the alignment, and the events that are read for it.

## Main results
* `alignFundingToBars_eq_latest` — **no bar sees an event after it, or misses one before it**.
* `align_loaded_eq_align_all` — **the window loses nothing**: bars in it get what they would get
  of the whole table.
-/

namespace Aats.Gold

open Execution (Timestamp)
open AsOf StableSort

structure FundingEvent where
  ts : Timestamp
  fundingRate : ℚ
  datasetVersion : Option String

/-- A bar's `(aligned_funding_rate, funding_source_ts, dataset_version)`. -/
structure AlignedFunding where
  rate : Option ℚ := none
  sourceTs : Option Timestamp := none
  datasetVersion : Option String := none

def AlignedFunding.ofEvent : Option FundingEvent → AlignedFunding
  | some f => { rate := some f.fundingRate, sourceTs := some f.ts, datasetVersion := f.datasetVersion }
  | none => {}

/-! ### The alignment -/

/-- The turn of the loop for one bar, with the pointer and the result so far. -/
def alignBar (fundingSorted : List FundingEvent)
    (state : ℕ × (Timestamp → Option AlignedFunding)) (barTs : Timestamp) :
    ℕ × (Timestamp → Option AlignedFunding) :=
  let fi := pointer FundingEvent.ts barTs (fundingSorted.drop state.1) state.1
  (fi, Function.update state.2 barTs
    (some (.ofEvent (if 0 < fi then fundingSorted[fi - 1]? else none))))

/-- The result under the time of each bar. -/
def alignFundingToBars (barTimestamps : List Timestamp) (fundingEvents : List FundingEvent) :
    Timestamp → Option AlignedFunding :=
  ((sortOn id barTimestamps).foldl (alignBar (sortOn FundingEvent.ts fundingEvents))
    (0, fun _ => none)).2

/-- What a bar gets. -/
def fundingAt (fundingEvents : List FundingEvent) (barTs : Timestamp) : AlignedFunding :=
  .ofEvent (latest FundingEvent.ts (fun event => event.ts ≤ barTs) fundingEvents)

/-- The loop over bars that go on from where the pointer is. -/
theorem foldl_alignBar (events : List FundingEvent) {bars : List Timestamp}
    {state : ℕ × (Timestamp → Option AlignedFunding)} (hsorted : bars.Pairwise (· ≤ ·))
    (hlength : state.1 ≤ (sortOn FundingEvent.ts events).length)
    (hpassed : ∀ event ∈ (sortOn FundingEvent.ts events).take state.1, ∀ t ∈ bars, event.ts ≤ t)
    (t : Timestamp) :
    (bars.foldl (alignBar (sortOn FundingEvent.ts events)) state).2 t =
      if t ∈ bars then some (fundingAt events t) else state.2 t := by
  induction bars generalizing state with
  | nil => rfl
  | cons bar bars ih =>
    rw [List.pairwise_cons] at hsorted
    obtain ⟨hnext, hlow, hlatest⟩ := sweep_eq_latest FundingEvent.ts hlength
      fun event hmem => hpassed event hmem bar List.mem_cons_self
    have hstep := @ih (alignBar (sortOn FundingEvent.ts events) state bar) hsorted.2 hnext
      fun event hmem later hlater => (hlow event hmem).trans (hsorted.1 later hlater)
    rw [List.foldl_cons, hstep]
    by_cases hin : t ∈ bars
    · rw [if_pos hin, if_pos (List.mem_cons_of_mem _ hin)]
    · rw [if_neg hin]
      by_cases hbar : t = bar
      · subst hbar
        rw [if_pos List.mem_cons_self]
        exact (Function.update_self _ _ _).trans
          (congrArg (fun event => some (AlignedFunding.ofEvent event)) hlatest)
      · rw [if_neg (by simp [hbar, hin])]
        exact Function.update_of_ne hbar _ _

theorem alignFundingToBars_apply (barTimestamps : List Timestamp)
    (fundingEvents : List FundingEvent) (t : Timestamp) :
    alignFundingToBars barTimestamps fundingEvents t =
      if t ∈ barTimestamps then some (fundingAt fundingEvents t) else none := by
  rw [alignFundingToBars, foldl_alignBar fundingEvents (pairwise_sortOn id barTimestamps)
    (Nat.zero_le _) (by simp)]
  simp only [mem_sortOn]

/-- **No bar sees an event after it, or misses one before it**: in whatever order bars and events
are given, a bar gets an event with the greatest time up to its own, and nothing only if all
events come after it. -/
theorem alignFundingToBars_eq_latest (barTimestamps : List Timestamp)
    (fundingEvents : List FundingEvent) (t : Timestamp) :
    (alignFundingToBars barTimestamps fundingEvents t = none ∧ t ∉ barTimestamps) ∨
      t ∈ barTimestamps ∧
        ((alignFundingToBars barTimestamps fundingEvents t = some {} ∧
            ∀ event ∈ fundingEvents, t < event.ts) ∨
          ∃ event ∈ fundingEvents, event.ts ≤ t ∧
            (∀ other ∈ fundingEvents, other.ts ≤ t → other.ts ≤ event.ts) ∧
            alignFundingToBars barTimestamps fundingEvents t = some (.ofEvent (some event))) := by
  rw [alignFundingToBars_apply]
  by_cases hbar : t ∈ barTimestamps
  · refine .inr ⟨hbar, ?_⟩
    rw [if_pos hbar, fundingAt]
    cases hlatest : latest FundingEvent.ts (fun event => event.ts ≤ t) fundingEvents with
    | none =>
      refine .inl ⟨rfl, fun event hmem => ?_⟩
      simpa using latest_eq_none.mp hlatest event hmem
    | some event =>
      obtain ⟨hmem, hle, hgreatest⟩ := of_latest hlatest
      exact .inr ⟨event, hmem, by simpa using hle, by simpa using hgreatest, rfl⟩
  · exact .inl ⟨if_neg hbar, hbar⟩

/-! ### The events that are read -/

/-- A row of `silver.market_swap_funding`. -/
structure FundingRow extends FundingEvent where
  symbol : String

/-- The table; its primary key is the symbol and the time. -/
structure SilverFunding where
  rows : List FundingRow
  primaryKey : (rows.map fun row => (row.symbol, row.ts)).Nodup

/-- All events of a symbol. -/
def SilverFunding.eventsOf (table : SilverFunding) (symbol : String) : List FundingEvent :=
  (table.rows.filter fun row => row.symbol = symbol.toUpper).map (·.toFundingEvent)

/-- The last event before the window, and those in it in the order of their times. -/
def loadSilverFunding (table : SilverFunding) (symbol : String) (startTs endTs : Timestamp) :
    List FundingEvent :=
  let events := table.eventsOf symbol
  (latest FundingEvent.ts (fun event => event.ts < startTs) events).toList ++
    sortOn FundingEvent.ts
      (events.filter fun event => startTs ≤ event.ts ∧ event.ts ≤ endTs)

theorem SilverFunding.nodup_eventsOf (table : SilverFunding) (symbol : String) :
    ((table.eventsOf symbol).map FundingEvent.ts).Nodup := by
  rw [SilverFunding.eventsOf, List.map_map]
  refine (table.primaryKey.of_map.filter _).map_on fun row hrow other hother hts => ?_
  rw [List.mem_filter, decide_eq_true_eq] at hrow hother
  refine List.inj_on_of_nodup_map table.primaryKey hrow.1 hother.1 ?_
  exact Prod.ext (hrow.2.trans hother.2.symm) hts

/-- **The window loses nothing**: a bar in it gets what it would get of all events of the symbol,
also before the first event of the window. -/
theorem align_loaded_eq_align_all (table : SilverFunding) (symbol : String)
    {startTs endTs t : Timestamp} (hstart : startTs ≤ t) (hend : t ≤ endTs)
    (barTimestamps : List Timestamp) :
    alignFundingToBars barTimestamps (loadSilverFunding table symbol startTs endTs) t =
      alignFundingToBars barTimestamps (table.eventsOf symbol) t := by
  have hlatest : latest FundingEvent.ts (fun event => event.ts ≤ t)
        (loadSilverFunding table symbol startTs endTs) =
      latest FundingEvent.ts (fun event => event.ts ≤ t) (table.eventsOf symbol) := by
    refine latest_congr (table.nodup_eventsOf symbol) ?_ ?_
    · intro event hmem
      rcases List.mem_append.mp hmem with hmem | hmem
      · exact (of_latest (Option.mem_toList.mp hmem)).1
      · exact (List.mem_filter.mp ((mem_sortOn _).mp hmem)).1
    · intro event hmem hle
      rw [decide_eq_true_eq] at hle
      by_cases hin : startTs ≤ event.ts
      · refine ⟨event, List.mem_append_right _ ?_, by simpa using hle, le_rfl⟩
        rw [mem_sortOn, List.mem_filter]
        simpa using ⟨hmem, hin, hle.trans hend⟩
      · -- the last event before the window is as late as this one
        cases hbefore : latest FundingEvent.ts (fun event => event.ts < startTs)
            (table.eventsOf symbol) with
        | none => exact absurd (latest_eq_none.mp hbefore event hmem) (by simpa using hin)
        | some last =>
          obtain ⟨-, hlast, hgreatest⟩ := of_latest hbefore
          rw [decide_eq_true_eq] at hlast
          refine ⟨last, ?_, by simpa using hlast.le.trans hstart,
            hgreatest event hmem (by simpa using hin)⟩
          exact List.mem_append_left _ (Option.mem_toList.mpr hbefore)
  rw [alignFundingToBars_apply, alignFundingToBars_apply, fundingAt, fundingAt, hlatest]

theorem nodup_carriedRows : (([⟨⟨0, 0, none⟩, "BTC"⟩] : List FundingRow).map
    fun row => (row.symbol, row.ts)).Nodup := List.nodup_singleton _

def carriedFunding : SilverFunding := ⟨[⟨⟨0, 0, none⟩, "BTC"⟩], nodup_carriedRows⟩

/-- The only event comes before the window. -/
theorem align_loaded_eq_align_all_carried :
    alignFundingToBars [5] (loadSilverFunding carriedFunding "btc" 5 9) 5 =
      alignFundingToBars [5] (carriedFunding.eventsOf "btc") 5 :=
  align_loaded_eq_align_all carriedFunding "btc" (by decide) (by decide) [5]

end Aats.Gold
