import Aats.Execution.OrderStateMachine
import Aats.Lib.StableSort
import Mathlib.Data.Prod.Lex
import Mathlib.Data.String.Basic

/-!
# The order in which fills are processed

`services/fill_ordering.py`: fills are processed in the order of their exchange timestamp, then
of the time they were taken in, then of their id. Both timestamps are required fields of a
fill, so the fallbacks of the source are never taken.
-/

namespace Aats

open Execution (Timestamp OrderStatus)

/-- A `FillEvent` with the fields that the stores read besides the accounting ones. -/
structure FillRecord extends FillEvent where
  exchangeOrderId : String := ""
  exchangeTimestamp : Timestamp
  ingestionTimestamp : Timestamp
  createdAt : Timestamp := 0
  orderStatusAfterFill : Option OrderStatus := none
  deriving DecidableEq

def fillProcessingSortKey (fill : FillRecord) : Timestamp ×ₗ Timestamp ×ₗ String :=
  toLex (fill.exchangeTimestamp, toLex (fill.ingestionTimestamp, fill.fillId))

/-- `sorted_fills`: Python's stable `sorted`. -/
def sortedFills (fills : List FillRecord) : List FillRecord :=
  fills.insertionSort (fun a b => fillProcessingSortKey a ≤ fillProcessingSortKey b)

theorem sortedFills_perm (fills : List FillRecord) : (sortedFills fills).Perm fills :=
  List.perm_insertionSort _ _

theorem mem_sortedFills {fill : FillRecord} {fills : List FillRecord} :
    fill ∈ sortedFills fills ↔ fill ∈ fills :=
  (sortedFills_perm fills).mem_iff

theorem pairwise_sortedFills (fills : List FillRecord) :
    (sortedFills fills).Pairwise fun a b => fillProcessingSortKey a ≤ fillProcessingSortKey b :=
  List.pairwise_insertionSort _ _

theorem sortedFills_pairwise_lt {fills : List FillRecord}
    (hids : (fills.map fun fill => fill.fillId).Nodup) :
    (sortedFills fills).Pairwise fun a b => fillProcessingSortKey a < fillProcessingSortKey b := by
  have hnodup : ((sortedFills fills).map fun fill => fill.fillId).Nodup :=
    ((sortedFills_perm fills).map _).nodup_iff.mpr hids
  refine ((pairwise_sortedFills fills).and (List.pairwise_map.mp hnodup)).imp ?_
  rintro a b ⟨hle, hne⟩
  refine lt_of_le_of_ne hle fun heq => hne ?_
  exact congrArg (fun key => (ofLex (ofLex key).2).2) heq

theorem sortedFills_eq_of_perm {fills others : List FillRecord} (h : others.Perm fills)
    (hids : (fills.map fun fill => fill.fillId).Nodup) : sortedFills others = sortedFills fills := by
  have hothers := (h.map fun fill : FillRecord => fill.fillId).nodup_iff.mpr hids
  refine List.Perm.eq_of_pairwise (fun a b _ _ hab hba => absurd hba (lt_asymm hab))
    (sortedFills_pairwise_lt hothers) (sortedFills_pairwise_lt hids) ?_
  exact (sortedFills_perm others).trans (h.trans (sortedFills_perm fills).symm)

theorem sortedFills_filter (keep : FillRecord → Bool) (fills : List FillRecord) :
    (sortedFills fills).filter keep = sortedFills (fills.filter keep) :=
  StableSort.filter_sortOn fillProcessingSortKey keep fills

end Aats
