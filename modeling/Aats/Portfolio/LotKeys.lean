import Aats.Portfolio.FifoAndAverage

/-!
# The lot book, one position key at a time

A fill only touches the lots of its own position key, so what the book has under a key is what it
has after the fills of that key alone. What a fill adds to the realized PnL of a rebuild is
therefore what it adds under its key, wherever it comes in the order of the fills.

If quantities and prices are multiples of steps, all realized PnL is a multiple of the product of
the two.

## Main results
* `lots_rebuildLotBook_filter` — the fills of other keys do not show under a key.
* `onGrid_lotPnlDelta` — the delta of a fill is a multiple of quantity step times price step.
-/

namespace Aats.Portfolio

open Holdings

variable {step priceStep : ℚ} {fill : FillRecord} {fills : List FillRecord} {key : String}

/-! ### Other keys -/

theorem SameUnder.realizedOf {book other : LotBook} (h : SameUnder key book other) :
    book.realizedOf key = other.realizedOf key := by
  unfold LotBook.realizedOf
  rw [h.holdingOf]

theorem SameUnder.process {book other : LotBook} (hkeyed : book.Keyed) (hkeyed' : other.Keyed)
    (fill : FillRecord) (h : SameUnder key book other) :
    SameUnder key (book.process fill) (other.process fill) := by
  by_cases hkey : positionKeyForFill fill.toFillEvent = key
  · subst hkey
    unfold LotBook.process
    split
    · exact h
    · split
      · exact h
      · -- matching reads nothing of the book but the lots of the key
        constructor
        · show ((LotBook.setLots _ _ _).lookup _).getD [] =
            ((LotBook.setLots _ _ _).lookup _).getD []
          rw [LotBook.lotsOf_setLots, LotBook.lotsOf_setLots, if_pos rfl, if_pos rfl, h.1]
        · show List.filter _ (_ ++ _) = List.filter _ (_ ++ _)
          rw [List.filter_append, List.filter_append, h.2, h.1]
  · have hleft := LotBook.sameUnder_process hkeyed hkey
    have hright := LotBook.sameUnder_process hkeyed' hkey
    exact ⟨hleft.1.trans (h.1.trans hright.1.symm), hleft.2.trans (h.2.trans hright.2.symm)⟩

theorem keyed_foldl_process (fills : List FillRecord) :
    (fills.foldl LotBook.process {}).Keyed := by
  induction fills using List.reverseRecOn with
  | nil =>
    intro key lot hmem
    cases hmem
  | append_singleton fills fill ih =>
    rw [List.foldl_append]
    exact LotBook.keyed_process ih fill

theorem lots_rebuildLotBook_filter (key : String) (fills : List FillRecord) :
    SameUnder key (rebuildLotBook fills)
      (rebuildLotBook (fills.filter (fun fill => positionKeyForFill fill.toFillEvent = key))) := by
  have hfold : ∀ fills : List FillRecord, SameUnder key (fills.foldl LotBook.process {})
      ((fills.filter (fun fill => positionKeyForFill fill.toFillEvent = key)).foldl
        LotBook.process {}) := by
    intro fills
    induction fills using List.reverseRecOn with
    | nil => exact ⟨rfl, rfl⟩
    | append_singleton fills fill ih =>
      rw [List.foldl_append, List.filter_append, List.foldl_append]
      by_cases hkey : positionKeyForFill fill.toFillEvent = key
      · have hlast : [fill].filter (fun fill => positionKeyForFill fill.toFillEvent = key) =
            [fill] := by
          simp [hkey]
        rw [hlast]
        exact SameUnder.process (keyed_foldl_process _) (keyed_foldl_process _) fill ih
      · have hlast : [fill].filter (fun fill => positionKeyForFill fill.toFillEvent = key) = [] := by
          simp [hkey]
        rw [hlast]
        have hother := LotBook.sameUnder_process (keyed_foldl_process fills) hkey
        exact ⟨hother.1.trans ih.1, hother.2.trans ih.2⟩
  unfold rebuildLotBook
  rw [← sortedFills_filter]
  exact hfold _

theorem realizedOf_concat_ne (hkey : positionKeyForFill fill.toFillEvent ≠ key)
    (fills : List FillRecord) :
    (rebuildLotBook (fills ++ [fill])).realizedOf key = (rebuildLotBook fills).realizedOf key := by
  have hfilter : (fills ++ [fill]).filter
      (fun fill => positionKeyForFill fill.toFillEvent = key) =
      fills.filter (fun fill => positionKeyForFill fill.toFillEvent = key) := by
    simp [hkey]
  rw [(lots_rebuildLotBook_filter key (fills ++ [fill])).realizedOf, hfilter,
    (lots_rebuildLotBook_filter key fills).realizedOf]

/-! ### The delta of a fill -/

def lotPnlDelta (seen : List FillRecord) (fill : FillRecord) : ℚ :=
  (rebuildLotBook (seen ++ [fill])).realizedPnl - (rebuildLotBook seen).realizedPnl

theorem realizedPnl_eq_sum {keys : Finset String} (hstep : epsilon12 < step)
    (hgrid : ∀ fill ∈ fills, OnGrid step fill.fillQty) (hkeys : positionKeys fills ⊆ keys) :
    (rebuildLotBook fills).realizedPnl = ∑ key ∈ keys, (rebuildLotBook fills).realizedOf key := by
  apply (accounts_rebuildLotBook hstep hgrid).realized_eq_sum
  intro key hkey
  obtain ⟨fill, hmem, heq⟩ := mem_positionKeys.mp hkey
  exact hkeys (mem_positionKeys.mpr ⟨fill, mem_sortedFills.mp hmem, heq⟩)

theorem lotPnlDelta_eq (hstep : epsilon12 < step) {seen : List FillRecord}
    (hgrid : ∀ other ∈ seen ++ [fill], OnGrid step other.fillQty) :
    lotPnlDelta seen fill =
      (rebuildLotBook (seen ++ [fill])).realizedOf (positionKeyForFill fill.toFillEvent) -
        (rebuildLotBook seen).realizedOf (positionKeyForFill fill.toFillEvent) := by
  have hsub : positionKeys seen ⊆ positionKeys (seen ++ [fill]) := by
    intro key hkey
    obtain ⟨other, hother, heq⟩ := mem_positionKeys.mp hkey
    exact mem_positionKeys.mpr ⟨other, List.mem_append_left _ hother, heq⟩
  have hmem : positionKeyForFill fill.toFillEvent ∈ positionKeys (seen ++ [fill]) := by
    apply mem_positionKeys.mpr
    exact ⟨fill, List.mem_append_right _ (List.mem_singleton_self _), rfl⟩
  -- both totals are sums over the same keys, and all summands but one are the same
  unfold lotPnlDelta
  rw [realizedPnl_eq_sum hstep hgrid (Finset.Subset.refl _),
    realizedPnl_eq_sum hstep (fun other h => hgrid other (List.mem_append_left _ h)) hsub,
    sum_shift (positionKeyForFill fill.toFillEvent)
      (fun key hne => realizedOf_concat_ne (Ne.symm hne) seen), if_pos hmem]
  ring

/-! ### Prices on a grid -/

/-- The lots of a key have quantities and entry prices on their grids. -/
def Priced (step priceStep : ℚ) (lots : List PositionLot) : Prop :=
  ∀ lot ∈ lots, OnGrid step lot.quantity ∧ OnGrid priceStep lot.entryPrice

theorem onGrid_closePnl {lot : PositionLot} {price closeQty : ℚ}
    (hentry : OnGrid priceStep lot.entryPrice) (hprice : OnGrid priceStep price)
    (hqty : OnGrid step closeQty) : OnGrid (step * priceStep) (closePnl lot price closeQty) := by
  unfold closePnl
  split
  · rw [mul_comm (price - lot.entryPrice)]
    exact hqty.mul (hprice.sub hentry)
  · rw [mul_comm (lot.entryPrice - price)]
    exact hqty.mul (hentry.sub hprice)

theorem closeLots_priced {lots : List PositionLot} {remaining : ℚ} (h : Priced step priceStep lots)
    (hrem : OnGrid step remaining) (hprice : OnGrid priceStep fill.fillPrice) :
    Priced step priceStep (closeLots fill lots remaining).lots ∧
    OnGrid step (closeLots fill lots remaining).remaining ∧
    OnGrid (step * priceStep) (eventPnl (closeLots fill lots remaining).events) := by
  induction lots generalizing remaining with
  | nil => exact ⟨h, hrem, onGrid_zero _⟩
  | cons lot lots ih =>
    have hlot := h lot List.mem_cons_self
    have htail : Priced step priceStep lots :=
      fun other hmem => h other (List.mem_cons_of_mem _ hmem)
    unfold closeLots
    extract_lets closeQty updatedLotQty left event rest
    -- quantities stay on the grid of quantities, a PnL is on the product of both grids
    have hclose : OnGrid step closeQty := hlot.1.abs.min hrem.abs
    have hupdated : OnGrid step updatedLotQty := by
      show OnGrid step (if 0 < lot.quantity then lot.quantity - closeQty
        else lot.quantity + closeQty)
      split
      · exact hlot.1.sub hclose
      · exact hlot.1.add hclose
    have hleft : OnGrid step left := by
      show OnGrid step (if 0 < lot.quantity then remaining + closeQty else remaining - closeQty)
      split
      · exact hrem.add hclose
      · exact hrem.sub hclose
    have hevent : OnGrid (step * priceStep) event.realizedPnlDelta :=
      onGrid_closePnl hlot.2 hprice hclose
    have hone : OnGrid (step * priceStep) (eventPnl [event]) := by
      rw [eventPnl_cons, eventPnl_nil, add_zero]
      exact hevent
    split
    · exact ⟨h, hrem, onGrid_zero _⟩
    · split
      · split
        · exact ⟨htail, onGrid_zero _, hone⟩
        · obtain ⟨hlots, hremaining, hevents⟩ := ih htail hleft
          refine ⟨hlots, hremaining, ?_⟩
          rw [eventPnl_cons]
          exact hevent.add hevents
      · refine ⟨?_, onGrid_zero _, hone⟩
        intro other hmem
        rcases List.mem_cons.mp hmem with rfl | hmem
        · exact ⟨hupdated, hlot.2⟩
        · exact htail other hmem

theorem matchLots_priced {lots : List PositionLot} (h : Priced step priceStep lots)
    (hqty : OnGrid step fill.fillQty) (hprice : OnGrid priceStep fill.fillPrice) :
    Priced step priceStep (matchLots fill lots).1 ∧
    OnGrid (step * priceStep) (eventPnl (matchLots fill lots).2) := by
  obtain ⟨hlots, hremaining, hevents⟩ := closeLots_priced h (onGrid_signedQty hqty) hprice
  unfold matchLots
  extract_lets closed
  split
  · exact ⟨hlots, hevents⟩
  · constructor
    · intro lot hmem
      rcases List.mem_append.mp hmem with hmem | hmem
      · exact hlots lot hmem
      · rw [List.mem_singleton.mp hmem]
        exact ⟨hremaining, hprice⟩
    · have hopen : eventPnl [openEvent fill closed.remaining] = 0 := by simp [openEvent]
      rw [eventPnl_append, hopen, add_zero]
      exact hevents

theorem onGrid_realizedPnl (hqty : ∀ fill ∈ fills, OnGrid step fill.fillQty)
    (hprice : ∀ fill ∈ fills, OnGrid priceStep fill.fillPrice) :
    OnGrid (step * priceStep) (rebuildLotBook fills).realizedPnl := by
  have hfold : ∀ fills : List FillRecord, (∀ fill ∈ fills, OnGrid step fill.fillQty) →
      (∀ fill ∈ fills, OnGrid priceStep fill.fillPrice) →
      (∀ key, Priced step priceStep ((fills.foldl LotBook.process {}).lotsOf key)) ∧
      OnGrid (step * priceStep) (fills.foldl LotBook.process {}).realizedPnl := by
    intro fills
    induction fills using List.reverseRecOn with
    | nil =>
      intro _ _
      refine ⟨?_, onGrid_zero _⟩
      intro key lot hmem
      cases hmem
    | append_singleton fills fill ih =>
      intro hqty hprice
      have hlast : fill ∈ fills ++ [fill] := List.mem_append_right _ (List.mem_singleton_self _)
      obtain ⟨hlots, hpnl⟩ := ih (fun other h => hqty other (List.mem_append_left _ h))
        (fun other h => hprice other (List.mem_append_left _ h))
      rw [List.foldl_append, List.foldl_cons, List.foldl_nil]
      rcases (fills.foldl LotBook.process {}).process_cases fill with
        ⟨-, -, -, hprocess⟩ | ⟨-, -, failure, hprocess⟩ | ⟨-, -, hprocess⟩
      · rw [hprocess]
        exact ⟨hlots, hpnl⟩
      · rw [hprocess]
        exact ⟨hlots, hpnl⟩
      · obtain ⟨hmatched, hevents⟩ := matchLots_priced
          (hlots (positionKeyForFill fill.toFillEvent)) (hqty fill hlast) (hprice fill hlast)
        rw [hprocess]
        refine ⟨?_, hpnl.add hevents⟩
        intro key
        show Priced step priceStep (((LotBook.setLots _ _ _).lookup key).getD [])
        rw [LotBook.lotsOf_setLots]
        split
        · exact hmatched
        · exact hlots key
  exact (hfold _ (fun fill hmem => hqty fill (mem_sortedFills.mp hmem))
    (fun fill hmem => hprice fill (mem_sortedFills.mp hmem))).2

theorem onGrid_lotPnlDelta {seen : List FillRecord}
    (hqty : ∀ other ∈ seen ++ [fill], OnGrid step other.fillQty)
    (hprice : ∀ other ∈ seen ++ [fill], OnGrid priceStep other.fillPrice) :
    OnGrid (step * priceStep) (lotPnlDelta seen fill) := by
  apply (onGrid_realizedPnl hqty hprice).sub
  exact onGrid_realizedPnl (fun other h => hqty other (List.mem_append_left _ h))
    (fun other h => hprice other (List.mem_append_left _ h))

end Aats.Portfolio
