import Aats.FillOrdering
import Aats.Portfolio.CashFlow

/-!
# The FIFO lot book

`services/ledger/lot_projection.py`: all fills are sorted and run through a queue of lots for
each position key. A fill closes the oldest lots of the opposite direction first, at the price
difference to each, and what remains of it opens a new lot. Fills without quantity are skipped,
fills whose fee cannot be valued are quarantined.

## Main results
* `accounts_foldl_process` — every position key of the book balances its trades.
-/

namespace Aats.Portfolio

open Execution (Timestamp)
open Holdings

/-! ### Lots -/

/-- `PositionLot`; `lot_id` is a hash of the position key and the source fill. -/
structure PositionLot where
  symbol : String
  positionKey : String
  quantity : ℚ
  entryPrice : ℚ
  productType : ProductType
  targetLeverage : ℚ
  marginMode : MarginMode
  sourceFillId : String
  exposureSide : ExposureSide
  positionMode : Option PositionMode
  posSide : Option PositionSide
  instrumentFamily : Option String
  settleCurrency : Option String
  openedAt : Timestamp
  deriving DecidableEq

/-- The `event_type` of a lot event. -/
inductive LotEventType
  | closeLot
  | openLot
  deriving DecidableEq

/-- `LotEventRecord`, with the position key of its payload. -/
structure LotEventRecord where
  fillId : String
  lotSourceFillId : String
  symbol : String
  positionKey : String
  eventType : LotEventType
  quantity : ℚ
  entryPrice : ℚ
  exitPrice : Option ℚ
  realizedPnlDelta : ℚ
  createdAt : Timestamp
  deriving DecidableEq

/-- What closing lots leaves: the open lots, the quantity of the fill that remains, and the
events. -/
structure Closed where
  lots : List PositionLot
  remaining : ℚ
  events : List LotEventRecord
  deriving DecidableEq

def closePnl (lot : PositionLot) (price closeQty : ℚ) : ℚ :=
  if 0 < lot.quantity then (price - lot.entryPrice) * closeQty
  else (lot.entryPrice - price) * closeQty

def closeEvent (fill : FillRecord) (lot : PositionLot) (closeQty : ℚ) : LotEventRecord where
  fillId := fill.fillId
  lotSourceFillId := lot.sourceFillId
  symbol := lot.symbol
  positionKey := lot.positionKey
  eventType := .closeLot
  quantity := closeQty
  entryPrice := lot.entryPrice
  exitPrice := some fill.fillPrice
  realizedPnlDelta := closePnl lot fill.fillPrice closeQty
  createdAt := fill.ingestionTimestamp

/-- The loop of `rebuild_lot_book` over the open lots of a key, oldest first. -/
def closeLots (fill : FillRecord) : List PositionLot → ℚ → Closed
  | [], remaining => { lots := [], remaining := remaining, events := [] }
  | lot :: lots, remaining =>
    if sameDirection lot.quantity remaining then
      { lots := lot :: lots, remaining := remaining, events := [] }
    else
      let closeQty := min |lot.quantity| |remaining|
      let updatedLotQty :=
        if 0 < lot.quantity then lot.quantity - closeQty else lot.quantity + closeQty
      let left := if 0 < lot.quantity then remaining + closeQty else remaining - closeQty
      let event := closeEvent fill lot closeQty
      if isEffectivelyZero updatedLotQty then
        if isEffectivelyZero left then { lots := lots, remaining := 0, events := [event] }
        else
          let rest := closeLots fill lots left
          { rest with events := event :: rest.events }
      -- a lot that stays open has taken all that was left of the fill
      else
        { lots := { lot with quantity := updatedLotQty } :: lots
          remaining := 0
          events := [event] }

def newLot (fill : FillRecord) (remaining : ℚ) : PositionLot where
  symbol := fill.symbol
  positionKey := positionKeyForFill fill.toFillEvent
  quantity := remaining
  entryPrice := fill.fillPrice
  productType := fill.productType
  targetLeverage := fill.targetLeverage
  marginMode := fill.marginMode
  sourceFillId := fill.fillId
  exposureSide := exposureSideFromQuantity remaining
  positionMode := fill.positionMode
  posSide := normalizePositionSide fill.posSide fill.positionMode
  instrumentFamily := fill.instrumentFamily
  settleCurrency := fill.settleCurrency
  openedAt := fill.ingestionTimestamp

def openEvent (fill : FillRecord) (remaining : ℚ) : LotEventRecord where
  fillId := fill.fillId
  lotSourceFillId := fill.fillId
  symbol := fill.symbol
  positionKey := positionKeyForFill fill.toFillEvent
  eventType := .openLot
  quantity := |remaining|
  entryPrice := fill.fillPrice
  exitPrice := none
  realizedPnlDelta := 0
  createdAt := fill.ingestionTimestamp

def matchLots (fill : FillRecord) (openLots : List PositionLot) :
    List PositionLot × List LotEventRecord :=
  let closed := closeLots fill openLots (signedQty fill.toFillEvent)
  if isEffectivelyZero closed.remaining then (closed.lots, closed.events)
  else (closed.lots ++ [newLot fill closed.remaining],
    closed.events ++ [openEvent fill closed.remaining])

/-! ### The book -/

/-- An entry of `processing_failures`. -/
structure ProcessingFailure where
  fillId : String
  symbol : String
  message : String
  details : UnsupportedFeeCurrencyDetails
  deriving DecidableEq

/-- The state of `rebuild_lot_book`. -/
structure LotBook where
  lots : AList fun _ : String => List PositionLot := ∅
  events : List LotEventRecord := []
  realizedPnl : ℚ := 0
  totalFeesPaid : ℚ := 0
  appliedFillIds : Finset String := ∅
  quarantinedFillIds : Finset String := ∅
  processingFailures : List ProcessingFailure := []

namespace LotBook

def lotsOf (book : LotBook) (key : String) : List PositionLot := (book.lots.lookup key).getD []

/-- The lots with those of a key replaced; a key without lots is dropped. -/
def setLots (lots : AList fun _ : String => List PositionLot) (key : String)
    (openLots : List PositionLot) : AList fun _ : String => List PositionLot :=
  if openLots.isEmpty then lots.erase key else lots.insert key openLots

/-- One fill of `rebuild_lot_book`. -/
def process (book : LotBook) (fill : FillRecord) : LotBook :=
  -- a fill without quantity is skipped before its fee is looked at
  if isEffectivelyZero fill.fillQty then
    { book with appliedFillIds := insert fill.fillId book.appliedFillIds }
  else
    match fillFeeDeltaInQuote fill.toFillEvent none none with
    | .error error =>
      { book with
        quarantinedFillIds := insert fill.fillId book.quarantinedFillIds
        processingFailures := book.processingFailures ++
          [{ fillId := fill.fillId
             symbol := fill.symbol
             message := error.message
             details := unsupportedFeeCurrencyDetails fill.toFillEvent none none error }] }
    | .ok feeQuote =>
      let key := positionKeyForFill fill.toFillEvent
      let matched := matchLots fill (book.lotsOf key)
      { book with
        lots := setLots book.lots key matched.1
        events := book.events ++ matched.2
        realizedPnl := book.realizedPnl + (matched.2.map (·.realizedPnlDelta)).sum
        totalFeesPaid := book.totalFeesPaid + feeQuote
        appliedFillIds := insert fill.fillId book.appliedFillIds }

/-- The position of a key: the sum of its lots at their mean entry price. -/
def positionOf (book : LotBook) (key : String) : Option PositionRecord :=
  match (book.lotsOf key).getLast? with
  | none => none
  | some last =>
    let totalQty := ((book.lotsOf key).map (·.quantity)).sum
    if isEffectivelyZero totalQty then none
    else
      some
        { symbol := last.symbol
          positionKey := some key
          quantity := totalQty
          avgEntryPrice :=
            ((book.lotsOf key).map (fun lot => |lot.quantity| * lot.entryPrice)).sum / |totalQty|
          productType := last.productType
          targetLeverage := last.targetLeverage
          marginMode := last.marginMode
          positionMode := last.positionMode
          posSide := last.posSide
          instrumentFamily := last.instrumentFamily
          settleCurrency := last.settleCurrency
          exposureSide := exposureSideFromQuantity totalQty }

end LotBook

def rebuildLotBook (fills : List FillRecord) : LotBook :=
  (sortedFills fills).foldl LotBook.process {}

/-! ### Closing lots -/

variable {step : ℚ} {fill : FillRecord} {lots : List PositionLot} {remaining : ℚ}

/-- The lots of a key are on the grid and all point in one direction. -/
structure Aligned (step : ℚ) (lots : List PositionLot) : Prop where
  onGrid : ∀ lot ∈ lots, OnGrid step lot.quantity
  side : (∀ lot ∈ lots, 0 < lot.quantity) ∨ (∀ lot ∈ lots, lot.quantity < 0)

theorem aligned_nil (step : ℚ) : Aligned step [] where
  onGrid := by simp
  side := by simp

def lotQuantity (lots : List PositionLot) : ℚ := (lots.map (·.quantity)).sum

def lotCost (lots : List PositionLot) : ℚ :=
  (lots.map (fun lot => lot.quantity * lot.entryPrice)).sum

def eventPnl (events : List LotEventRecord) : ℚ := (events.map (·.realizedPnlDelta)).sum

@[simp] theorem lotQuantity_nil : lotQuantity [] = 0 := rfl

@[simp] theorem lotCost_nil : lotCost [] = 0 := rfl

@[simp] theorem eventPnl_nil : eventPnl [] = 0 := rfl

@[simp] theorem lotQuantity_cons (lot : PositionLot) (lots : List PositionLot) :
    lotQuantity (lot :: lots) = lot.quantity + lotQuantity lots := by
  simp [lotQuantity]

@[simp] theorem lotCost_cons (lot : PositionLot) (lots : List PositionLot) :
    lotCost (lot :: lots) = lot.quantity * lot.entryPrice + lotCost lots := by
  simp [lotCost]

@[simp] theorem eventPnl_cons (event : LotEventRecord) (events : List LotEventRecord) :
    eventPnl (event :: events) = event.realizedPnlDelta + eventPnl events := by
  simp [eventPnl]

theorem eventPnl_append (events more : List LotEventRecord) :
    eventPnl (events ++ more) = eventPnl events + eventPnl more := by
  simp [eventPnl]

/-- What closing lots comes to: quantities are kept, PnL and cash spent are the change of the
cost, and what remains of the fill points in the direction of the lots that stay. -/
structure ClosesTo (step : ℚ) (fill : FillRecord) (lots : List PositionLot) (remaining : ℚ)
    (closed : Closed) : Prop where
  onGrid : OnGrid step closed.remaining
  aligned : Aligned step closed.lots
  quantity : lotQuantity closed.lots + closed.remaining = lotQuantity lots + remaining
  cost : eventPnl closed.events + (remaining - closed.remaining) * fill.fillPrice =
    lotCost closed.lots - lotCost lots
  side : closed.remaining = 0 ∨
    (0 < closed.remaining ∧ ∀ lot ∈ closed.lots, 0 < lot.quantity) ∨
    (closed.remaining < 0 ∧ ∀ lot ∈ closed.lots, lot.quantity < 0)

theorem closeEvent_sound (fill : FillRecord) {lot : PositionLot}
    (hopposite : (0 < lot.quantity ∧ remaining < 0) ∨ (lot.quantity < 0 ∧ 0 < remaining)) :
    ∃ closedQty left : ℚ,
      (if 0 < lot.quantity then lot.quantity - min |lot.quantity| |remaining|
        else lot.quantity + min |lot.quantity| |remaining|) = lot.quantity - closedQty ∧
      (if 0 < lot.quantity then remaining + min |lot.quantity| |remaining|
        else remaining - min |lot.quantity| |remaining|) = left ∧
      left = remaining + closedQty ∧
      (closeEvent fill lot (min |lot.quantity| |remaining|)).realizedPnlDelta =
        (fill.fillPrice - lot.entryPrice) * closedQty ∧
      (closedQty = lot.quantity ∨
        (left = 0 ∧ 0 < lot.quantity ∧ 0 < lot.quantity - closedQty) ∨
        (left = 0 ∧ lot.quantity < 0 ∧ lot.quantity - closedQty < 0)) := by
  rcases hopposite with ⟨hlot, hrem⟩ | ⟨hlot, hrem⟩
  · -- a long lot against a sell
    rw [abs_of_pos hlot, abs_of_neg hrem]
    refine ⟨min lot.quantity (-remaining), remaining + min lot.quantity (-remaining),
      by rw [if_pos hlot], by rw [if_pos hlot], rfl, ?_, ?_⟩
    · simp only [closeEvent, closePnl, if_pos hlot]
    · rcases le_total lot.quantity (-remaining) with h | h
      · exact .inl (min_eq_left h)
      · rw [min_eq_right h]
        rcases h.eq_or_lt with heq | hlt
        · exact .inl heq
        · exact .inr (.inl ⟨by ring, hlot, by linarith⟩)
  · -- a short lot against a buy
    have hnot : ¬ 0 < lot.quantity := by linarith
    rw [abs_of_neg hlot, abs_of_pos hrem]
    refine ⟨-min (-lot.quantity) remaining, remaining - min (-lot.quantity) remaining,
      by rw [if_neg hnot]; ring, by rw [if_neg hnot], by ring, ?_, ?_⟩
    · simp only [closeEvent, closePnl, if_neg hnot]
      ring
    · rcases le_total (-lot.quantity) remaining with h | h
      · rw [min_eq_left h, neg_neg]
        exact .inl rfl
      · rw [min_eq_right h]
        rcases h.eq_or_lt with heq | hlt
        · exact .inl (by linarith)
        · exact .inr (.inr ⟨by ring, hlot, by linarith⟩)

theorem Aligned.tail {lot : PositionLot} (h : Aligned step (lot :: lots)) : Aligned step lots where
  onGrid := fun other hmem => h.onGrid other (List.mem_cons_of_mem _ hmem)
  side := h.side.imp (fun hs other hmem => hs other (List.mem_cons_of_mem _ hmem))
    (fun hs other hmem => hs other (List.mem_cons_of_mem _ hmem))

theorem Aligned.resize {lot : PositionLot} {quantity : ℚ} (h : Aligned step (lot :: lots))
    (hgrid : OnGrid step quantity)
    (hside : (0 < lot.quantity ∧ 0 < quantity) ∨ (lot.quantity < 0 ∧ quantity < 0)) :
    Aligned step ({ lot with quantity := quantity } :: lots) where
  onGrid := by
    intro other hmem
    rcases List.mem_cons.mp hmem with rfl | hmem
    · exact hgrid
    · exact h.tail.onGrid other hmem
  side := by
    have hhead := List.mem_cons_self (a := lot) (l := lots)
    rcases hside with ⟨hlot, hq⟩ | ⟨hlot, hq⟩ <;> rcases h.side with hs | hs
    · left
      intro other hmem
      rcases List.mem_cons.mp hmem with rfl | hmem
      · exact hq
      · exact hs other (List.mem_cons_of_mem _ hmem)
    · exact absurd (hs lot hhead) (by linarith)
    · exact absurd (hs lot hhead) (by linarith)
    · right
      intro other hmem
      rcases List.mem_cons.mp hmem with rfl | hmem
      · exact hq
      · exact hs other (List.mem_cons_of_mem _ hmem)

theorem Aligned.side_of_same {lot : PositionLot} (h : Aligned step (lot :: lots))
    (hsame : (0 ≤ lot.quantity ∧ 0 ≤ remaining) ∨ (lot.quantity ≤ 0 ∧ remaining ≤ 0)) :
    remaining = 0 ∨ (0 < remaining ∧ ∀ other ∈ lot :: lots, 0 < other.quantity) ∨
      (remaining < 0 ∧ ∀ other ∈ lot :: lots, other.quantity < 0) := by
  have hhead : lot ∈ lot :: lots := List.mem_cons_self
  rcases lt_trichotomy remaining 0 with hrem | hrem | hrem
  · refine .inr (.inr ⟨hrem, ?_⟩)
    rcases h.side with hs | hs
    · have := hs lot hhead
      rcases hsame with ⟨-, hr⟩ | ⟨hl, -⟩ <;> linarith
    · exact hs
  · exact .inl hrem
  · refine .inr (.inl ⟨hrem, ?_⟩)
    rcases h.side with hs | hs
    · exact hs
    · have := hs lot hhead
      rcases hsame with ⟨hl, -⟩ | ⟨-, hr⟩ <;> linarith

theorem closeLots_spec (hstep : epsilon12 < step) (fill : FillRecord)
    (haligned : Aligned step lots) (hgrid : OnGrid step remaining) :
    ClosesTo step fill lots remaining (closeLots fill lots remaining) := by
  -- over the lots, oldest first; on the grid, the tolerance only ever takes zero for zero
  induction lots generalizing remaining with
  | nil =>
    refine ⟨hgrid, aligned_nil step, rfl, by simp [closeLots], ?_⟩
    rcases lt_trichotomy remaining 0 with h | h | h
    · exact .inr (.inr ⟨h, by simp [closeLots]⟩)
    · exact .inl h
    · exact .inr (.inl ⟨h, by simp [closeLots]⟩)
  | cons lot lots ih =>
    have hlotGrid := haligned.onGrid lot List.mem_cons_self
    unfold closeLots
    by_cases hsame : sameDirection lot.quantity remaining = true
    · rw [if_pos hsame]
      rw [sameDirection_iff hstep hlotGrid hgrid] at hsame
      exact ⟨hgrid, haligned, rfl, by simp, haligned.side_of_same hsame⟩
    · rw [if_neg hsame]
      rw [sameDirection_iff hstep hlotGrid hgrid] at hsame
      obtain ⟨closedQty, left, hupdated, hleft, hsum, hpnl, hcases⟩ :=
        closeEvent_sound fill ((direction_cases lot.quantity remaining).resolve_left hsame)
      simp only [hupdated, hleft]
      rcases hcases with hall | hpart
      · -- the lot is closed; what is left of the fill goes on to the next one
        subst hall
        have hleftGrid : OnGrid step left := hsum ▸ hgrid.add hlotGrid
        rw [sub_self, if_pos isEffectivelyZero_zero]
        by_cases hzero : left = 0
        · rw [if_pos (by rw [hzero]; exact isEffectivelyZero_zero)]
          refine ⟨onGrid_zero step, haligned.tail, ?_, ?_, .inl rfl⟩
          · rw [lotQuantity_cons]
            linear_combination hsum - hzero
          · rw [eventPnl_cons, hpnl, lotCost_cons, eventPnl_nil]
            have hrem : remaining = -lot.quantity := by linear_combination hzero - hsum
            rw [hrem]
            ring
        · rw [if_neg (fun h => hzero ((isEffectivelyZero_iff hstep hleftGrid).mp h))]
          have hrest := ih haligned.tail hleftGrid
          refine ⟨hrest.onGrid, hrest.aligned, ?_, ?_, hrest.side⟩
          · rw [lotQuantity_cons]
            linear_combination hrest.quantity + hsum
          · rw [eventPnl_cons, hpnl, lotCost_cons]
            linear_combination hrest.cost - hsum * fill.fillPrice
      · -- the lot stays open, and nothing is left of the fill
        have hleftZero : left = 0 := by
          rcases hpart with ⟨h, -⟩ | ⟨h, -⟩ <;> exact h
        have hclosed : closedQty = -remaining := by linear_combination hleftZero - hsum
        have hgridLeft : OnGrid step (lot.quantity - closedQty) := by
          rw [hclosed]
          exact hlotGrid.sub hgrid.neg
        have hside : (0 < lot.quantity ∧ 0 < lot.quantity - closedQty) ∨
            (lot.quantity < 0 ∧ lot.quantity - closedQty < 0) :=
          hpart.imp (fun h => h.2) (fun h => h.2)
        have hne : lot.quantity - closedQty ≠ 0 := by
          rcases hside with ⟨-, h⟩ | ⟨-, h⟩
          · exact h.ne'
          · exact h.ne
        rw [if_neg (fun h => hne ((isEffectivelyZero_iff hstep hgridLeft).mp h))]
        refine ⟨onGrid_zero step, haligned.resize hgridLeft hside, ?_, ?_, .inl rfl⟩
        · rw [lotQuantity_cons, lotQuantity_cons, hclosed]
          ring
        · rw [eventPnl_cons, hpnl, lotCost_cons, lotCost_cons, eventPnl_nil, hclosed]
          ring

theorem closeLots_keyed {key : String} (fill : FillRecord)
    (h : ∀ lot ∈ lots, lot.positionKey = key) (remaining : ℚ) :
    (∀ lot ∈ (closeLots fill lots remaining).lots, lot.positionKey = key) ∧
      ∀ event ∈ (closeLots fill lots remaining).events, event.positionKey = key := by
  induction lots generalizing remaining with
  | nil => simp [closeLots]
  | cons lot lots ih =>
    have hhead := h lot List.mem_cons_self
    have htail : ∀ other ∈ lots, other.positionKey = key :=
      fun other hmem => h other (List.mem_cons_of_mem _ hmem)
    unfold closeLots
    extract_lets closeQty updatedLotQty left event rest
    have hevent : event.positionKey = key := hhead
    split
    · exact ⟨h, by simp⟩
    · split
      · split
        · exact ⟨htail, by simpa using hevent⟩
        · refine ⟨(ih htail _).1, ?_⟩
          intro event hmem
          rcases List.mem_cons.mp hmem with rfl | hmem
          · exact hevent
          · exact (ih htail _).2 event hmem
      · refine ⟨?_, by simpa using hevent⟩
        intro other hmem
        rcases List.mem_cons.mp hmem with rfl | hmem
        · exact hhead
        · exact htail other hmem

/-! ### Matching one fill -/

theorem Aligned.concat (h : Aligned step lots) (lot : PositionLot)
    (hgrid : OnGrid step lot.quantity)
    (hside : (0 < lot.quantity ∧ ∀ other ∈ lots, 0 < other.quantity) ∨
      (lot.quantity < 0 ∧ ∀ other ∈ lots, other.quantity < 0)) :
    Aligned step (lots ++ [lot]) where
  onGrid := by
    intro other hmem
    rcases List.mem_append.mp hmem with hmem | hmem
    · exact h.onGrid other hmem
    · rw [List.mem_singleton.mp hmem]
      exact hgrid
  side := by
    refine hside.imp ?_ ?_
    · rintro ⟨hlot, hothers⟩ other hmem
      rcases List.mem_append.mp hmem with hmem | hmem
      · exact hothers other hmem
      · rw [List.mem_singleton.mp hmem]
        exact hlot
    · rintro ⟨hlot, hothers⟩ other hmem
      rcases List.mem_append.mp hmem with hmem | hmem
      · exact hothers other hmem
      · rw [List.mem_singleton.mp hmem]
        exact hlot

theorem lotQuantity_concat (lots : List PositionLot) (lot : PositionLot) :
    lotQuantity (lots ++ [lot]) = lotQuantity lots + lot.quantity := by
  simp [lotQuantity]

theorem lotCost_concat (lots : List PositionLot) (lot : PositionLot) :
    lotCost (lots ++ [lot]) = lotCost lots + lot.quantity * lot.entryPrice := by
  simp [lotCost]

theorem matchLots_spec (hstep : epsilon12 < step) (haligned : Aligned step lots)
    (hfill : OnGrid step fill.fillQty) :
    Aligned step (matchLots fill lots).1 ∧
    lotQuantity (matchLots fill lots).1 = lotQuantity lots + signedQty fill.toFillEvent ∧
    eventPnl (matchLots fill lots).2 + signedQty fill.toFillEvent * fill.fillPrice =
      lotCost (matchLots fill lots).1 - lotCost lots := by
  have hclosed := closeLots_spec hstep fill haligned (onGrid_signedQty hfill)
  have hquantity := hclosed.quantity
  have hcost := hclosed.cost
  unfold matchLots
  extract_lets closed
  by_cases hzero : closed.remaining = 0
  · rw [if_pos (by rw [hzero]; exact isEffectivelyZero_zero)]
    rw [show (closeLots fill lots (signedQty fill.toFillEvent)).remaining = 0 from hzero]
      at hquantity hcost
    refine ⟨hclosed.aligned, ?_, ?_⟩
    · linear_combination hquantity
    · linear_combination hcost
  · rw [if_neg (fun h => hzero ((isEffectivelyZero_iff hstep hclosed.onGrid).mp h))]
    refine ⟨hclosed.aligned.concat _ hclosed.onGrid (hclosed.side.resolve_left hzero), ?_, ?_⟩
    · rw [lotQuantity_concat]
      exact hquantity
    · rw [lotCost_concat, eventPnl_append]
      have hopen : eventPnl [openEvent fill closed.remaining] = 0 := by simp [openEvent]
      have hnew : (newLot fill closed.remaining).quantity *
          (newLot fill closed.remaining).entryPrice = closed.remaining * fill.fillPrice := rfl
      rw [hopen, hnew]
      linear_combination hcost

theorem matchLots_keyed (fill : FillRecord)
    (h : ∀ lot ∈ lots, lot.positionKey = positionKeyForFill fill.toFillEvent) :
    (∀ lot ∈ (matchLots fill lots).1, lot.positionKey = positionKeyForFill fill.toFillEvent) ∧
    ∀ event ∈ (matchLots fill lots).2, event.positionKey = positionKeyForFill fill.toFillEvent := by
  have hclosed := closeLots_keyed fill h (signedQty fill.toFillEvent)
  unfold matchLots
  extract_lets closed
  split
  · exact hclosed
  · constructor
    · intro lot hmem
      rcases List.mem_append.mp hmem with hmem | hmem
      · exact hclosed.1 lot hmem
      · rw [List.mem_singleton.mp hmem]
        rfl
    · intro event hmem
      rcases List.mem_append.mp hmem with hmem | hmem
      · exact hclosed.2 event hmem
      · rw [List.mem_singleton.mp hmem]
        rfl

/-! ### What one fill changes of the book -/

/-- The fill is put aside: it has a quantity, and its fee cannot be valued. -/
def isQuarantined (fill : FillRecord) : Bool :=
  !isEffectivelyZero fill.fillQty && !(fillFeeDeltaInQuote fill.toFillEvent none none).isOk

/-- The fee that the book counts for a fill: none for one that is skipped or put aside. -/
def lotFee (fill : FillRecord) : ℚ :=
  if isEffectivelyZero fill.fillQty then 0
  else
    match fillFeeDeltaInQuote fill.toFillEvent none none with
    | .error _ => 0
    | .ok fee => fee

namespace LotBook

variable {book : LotBook} {key : String}

theorem lotsOf_setLots (book : LotBook) (key other : String) (openLots : List PositionLot) :
    ((setLots book.lots key openLots).lookup other).getD [] =
      if key = other then openLots else book.lotsOf other := by
  unfold setLots
  by_cases hkey : key = other
  · subst hkey
    rw [if_pos rfl]
    split
    · next hempty =>
      rw [AList.lookup_erase, List.isEmpty_iff.mp hempty]
      rfl
    · rw [AList.lookup_insert]
      rfl
  · rw [if_neg hkey]
    split
    · rw [AList.lookup_erase_ne (Ne.symm hkey)]
      rfl
    · rw [AList.lookup_insert_ne (Ne.symm hkey)]
      rfl

/-- What one fill does to the lots and totals of the book: nothing, because it has no quantity,
nothing, because it is put aside, or it is matched. -/
theorem process_cases (book : LotBook) (fill : FillRecord) :
    (isEffectivelyZero fill.fillQty = true ∧ isQuarantined fill = false ∧ lotFee fill = 0 ∧
      book.process fill =
        { book with appliedFillIds := insert fill.fillId book.appliedFillIds }) ∨
    (isQuarantined fill = true ∧ lotFee fill = 0 ∧ ∃ failure,
      book.process fill =
        { book with
          quarantinedFillIds := insert fill.fillId book.quarantinedFillIds
          processingFailures := book.processingFailures ++ [failure] }) ∨
    (isEffectivelyZero fill.fillQty = false ∧ isQuarantined fill = false ∧
      book.process fill =
        { book with
          lots := setLots book.lots (positionKeyForFill fill.toFillEvent)
            (matchLots fill (book.lotsOf (positionKeyForFill fill.toFillEvent))).1
          events := book.events ++
            (matchLots fill (book.lotsOf (positionKeyForFill fill.toFillEvent))).2
          realizedPnl := book.realizedPnl +
            eventPnl (matchLots fill (book.lotsOf (positionKeyForFill fill.toFillEvent))).2
          totalFeesPaid := book.totalFeesPaid + lotFee fill
          appliedFillIds := insert fill.fillId book.appliedFillIds }) := by
  by_cases hzero : isEffectivelyZero fill.fillQty = true
  · refine .inl ⟨hzero, ?_, ?_, ?_⟩
    · simp [isQuarantined, hzero]
    · rw [lotFee, if_pos hzero]
    · rw [process, if_pos hzero]
  -- what is not put aside is a fill whose fee can be valued
  · have hnot : isEffectivelyZero fill.fillQty = false := by simpa using hzero
    cases hfee : fillFeeDeltaInQuote fill.toFillEvent none none with
    | error error =>
      refine .inr (.inl ⟨?_, ?_, ?_⟩)
      · simp [isQuarantined, hnot, hfee, Except.isOk, Except.toBool]
      · rw [lotFee, if_neg hzero, hfee]
      · rw [process, if_neg hzero, hfee]
        exact ⟨_, rfl⟩
    | ok fee =>
      refine .inr (.inr ⟨hnot, ?_, ?_⟩)
      · simp [isQuarantined, hfee, Except.isOk, Except.toBool]
      · rw [process, if_neg hzero, lotFee, if_neg hzero, hfee]
        rfl

theorem process_matched (book : LotBook) (hzero : isEffectivelyZero fill.fillQty = false)
    (haccepted : isQuarantined fill = false) :
    book.process fill =
      { book with
        lots := setLots book.lots (positionKeyForFill fill.toFillEvent)
          (matchLots fill (book.lotsOf (positionKeyForFill fill.toFillEvent))).1
        events := book.events ++
          (matchLots fill (book.lotsOf (positionKeyForFill fill.toFillEvent))).2
        realizedPnl := book.realizedPnl +
          eventPnl (matchLots fill (book.lotsOf (positionKeyForFill fill.toFillEvent))).2
        totalFeesPaid := book.totalFeesPaid + lotFee fill
        appliedFillIds := insert fill.fillId book.appliedFillIds } := by
  rcases book.process_cases fill with ⟨hno, -⟩ | ⟨hno, -⟩ | ⟨-, -, hprocess⟩
  · rw [hzero] at hno
    cases hno
  · rw [haccepted] at hno
    cases hno
  · exact hprocess

def holdingOf (book : LotBook) (key : String) : Holding ℚ where
  quantity := lotQuantity (book.lotsOf key)
  cost := lotCost (book.lotsOf key)
  profit := eventPnl (book.events.filter (·.positionKey = key))

def Keyed (book : LotBook) : Prop := ∀ key, ∀ lot ∈ book.lotsOf key, lot.positionKey = key

end LotBook

def SameUnder (key : String) (book other : LotBook) : Prop :=
  book.lotsOf key = other.lotsOf key ∧
    book.events.filter (·.positionKey = key) = other.events.filter (·.positionKey = key)

theorem SameUnder.holdingOf {key : String} {book other : LotBook} (h : SameUnder key book other) :
    book.holdingOf key = other.holdingOf key := by
  unfold LotBook.holdingOf
  rw [h.1, h.2]

namespace LotBook

variable {book : LotBook}

theorem sameUnder_process (hkeyed : book.Keyed) {key : String}
    (hkey : positionKeyForFill fill.toFillEvent ≠ key) :
    SameUnder key (book.process fill) book := by
  rcases book.process_cases fill with ⟨-, -, -, hprocess⟩ | ⟨-, -, failure, hprocess⟩ |
    ⟨-, -, hprocess⟩
  · rw [hprocess]
    exact ⟨rfl, rfl⟩
  · rw [hprocess]
    exact ⟨rfl, rfl⟩
  · have hmatched := matchLots_keyed fill (hkeyed (positionKeyForFill fill.toFillEvent))
    have hnone : (matchLots fill (book.lotsOf (positionKeyForFill fill.toFillEvent))).2.filter
        (·.positionKey = key) = [] := by
      rw [List.filter_eq_nil_iff]
      intro event hmem
      rw [decide_eq_true_iff, hmatched.2 event hmem]
      exact hkey
    rw [hprocess]
    constructor
    · exact (lotsOf_setLots _ _ _ _).trans (if_neg hkey)
    · rw [List.filter_append, hnone, List.append_nil]

theorem process_own (hkeyed : book.Keyed) (hzero : isEffectivelyZero fill.fillQty = false)
    (haccepted : isQuarantined fill = false) :
    (book.process fill).lotsOf (positionKeyForFill fill.toFillEvent) =
      (matchLots fill (book.lotsOf (positionKeyForFill fill.toFillEvent))).1 ∧
    (book.process fill).events.filter (·.positionKey = positionKeyForFill fill.toFillEvent) =
      book.events.filter (·.positionKey = positionKeyForFill fill.toFillEvent) ++
        (matchLots fill (book.lotsOf (positionKeyForFill fill.toFillEvent))).2 := by
  have hmatched := matchLots_keyed fill (hkeyed (positionKeyForFill fill.toFillEvent))
  have hmine : (matchLots fill (book.lotsOf (positionKeyForFill fill.toFillEvent))).2.filter
      (·.positionKey = positionKeyForFill fill.toFillEvent) =
      (matchLots fill (book.lotsOf (positionKeyForFill fill.toFillEvent))).2 := by
    rw [List.filter_eq_self]
    intro event hmem
    simpa using hmatched.2 event hmem
  rw [book.process_matched hzero haccepted]
  -- only here is the position key of the events needed: they are all of this key
  constructor
  · exact (lotsOf_setLots _ _ _ _).trans (if_pos rfl)
  · rw [List.filter_append, hmine]

theorem keyed_process (hkeyed : book.Keyed) (fill : FillRecord) : (book.process fill).Keyed := by
  intro key
  by_cases hkey : positionKeyForFill fill.toFillEvent = key
  · subst hkey
    rcases book.process_cases fill with ⟨-, -, -, hprocess⟩ | ⟨-, -, failure, hprocess⟩ |
      ⟨hzero, haccepted, -⟩
    · rw [hprocess]
      exact hkeyed _
    · rw [hprocess]
      exact hkeyed _
    · rw [(process_own hkeyed hzero haccepted).1]
      exact (matchLots_keyed fill (hkeyed _)).1
  · rw [(sameUnder_process hkeyed hkey).1]
    exact hkeyed key

end LotBook

/-! ### All fills -/

def fillTrades (key : String) (fills : List FillRecord) : List (Trade ℚ) :=
  (fills.filter (fun fill => positionKeyForFill fill.toFillEvent = key)).map
    (fun fill => (signedQty fill.toFillEvent, fill.fillPrice))

def acceptedFills (fills : List FillRecord) : List FillRecord :=
  fills.filter (fun fill => !isQuarantined fill)

structure LotBook.Accounts (step : ℚ) (fills : List FillRecord) (book : LotBook) : Prop where
  aligned : ∀ key, Aligned step (book.lotsOf key)
  keyed : ∀ key, ∀ lot ∈ book.lotsOf key, lot.positionKey = key
  holding : ∀ key, (book.holdingOf key).Balances (fillTrades key (acceptedFills fills))
  realized : book.realizedPnl = eventPnl book.events
  fees : book.totalFeesPaid = (fills.map lotFee).sum
  keys : ∀ event ∈ book.events,
    event.positionKey ∈ (acceptedFills fills).map (fun fill => positionKeyForFill fill.toFillEvent)

theorem accounts_nil (step : ℚ) : LotBook.Accounts step [] {} where
  aligned := fun _ => aligned_nil step
  keyed := by
    intro key lot hmem
    cases hmem
  holding := fun _ => Holding.balances_empty
  realized := rfl
  fees := rfl
  keys := by simp

theorem fillTrades_concat (key : String) (fills : List FillRecord) (fill : FillRecord) :
    fillTrades key (fills ++ [fill]) =
      fillTrades key fills ++ if positionKeyForFill fill.toFillEvent = key then
        [(signedQty fill.toFillEvent, fill.fillPrice)] else [] := by
  unfold fillTrades
  rw [List.filter_append, List.map_append]
  split
  · next h => simp [h]
  · next h => simp [h]

theorem acceptedFills_concat (fills : List FillRecord) {fill : FillRecord}
    (h : isQuarantined fill = false) :
    acceptedFills (fills ++ [fill]) = acceptedFills fills ++ [fill] := by
  simp [acceptedFills, h]

theorem acceptedFills_concat_quarantined (fills : List FillRecord) {fill : FillRecord}
    (h : isQuarantined fill = true) :
    acceptedFills (fills ++ [fill]) = acceptedFills fills := by
  simp [acceptedFills, h]

section Step

variable {fills : List FillRecord} {book : LotBook}

theorem LotBook.Accounts.holding_match (h : book.Accounts step fills) (hstep : epsilon12 < step)
    (hfill : OnGrid step fill.fillQty) (haccepted : isQuarantined fill = false)
    (hzero : isEffectivelyZero fill.fillQty = false) (key : String) :
    ((book.process fill).holdingOf key).Balances
      (fillTrades key (acceptedFills (fills ++ [fill]))) := by
  rw [acceptedFills_concat fills haccepted, fillTrades_concat]
  by_cases hkey : positionKeyForFill fill.toFillEvent = key
  · rw [if_pos hkey]
    subst hkey
    have hspec := matchLots_spec hstep (h.aligned (positionKeyForFill fill.toFillEvent)) hfill
    obtain ⟨hlots, hevents⟩ := LotBook.process_own h.keyed hzero haccepted
    -- matching is a sound trade, and so is what it does to the holding
    apply (h.holding _).trade
    · show lotQuantity _ = lotQuantity _ + _
      rw [hlots, hspec.2.1]
    · show eventPnl ((book.process fill).events.filter _) - eventPnl (book.events.filter _) +
        signedQty fill.toFillEvent * fill.fillPrice = lotCost _ - lotCost _
      rw [hevents, eventPnl_append, hlots]
      linear_combination hspec.2.2
  · rw [if_neg hkey, List.append_nil, (LotBook.sameUnder_process h.keyed hkey).holdingOf]
    exact h.holding key

theorem balances_concat_zero {holding : Holding ℚ} {trades : List (Trade ℚ)} {quantity price : ℚ}
    (h : holding.Balances trades) (hzero : quantity = 0) :
    holding.Balances (trades ++ [(quantity, price)]) := by
  apply h.trade
  · rw [hzero, add_zero]
  · rw [hzero]
    ring

theorem LotBook.Accounts.process (h : book.Accounts step fills) (hstep : epsilon12 < step)
    (hfill : OnGrid step fill.fillQty) :
    (book.process fill).Accounts step (fills ++ [fill]) := by
  have hfees : ((fills ++ [fill]).map lotFee).sum = (fills.map lotFee).sum + lotFee fill := by
    simp
  rcases book.process_cases fill with
    ⟨hzero, haccepted, hfee, hprocess⟩ | ⟨hquarantined, hfee, failure, hprocess⟩ |
      ⟨hzero, haccepted, hprocess⟩
  · -- on the grid, a fill without quantity trades exactly nothing
    have hqty : signedQty fill.toFillEvent = 0 := by
      have h0 := (isEffectivelyZero_iff hstep hfill).mp hzero
      unfold signedQty
      cases fill.side <;> simp [h0]
    have hconcat := acceptedFills_concat fills haccepted
    rw [hprocess]
    refine ⟨h.aligned, h.keyed, ?_, h.realized, ?_, ?_⟩
    · intro key
      rw [hconcat, fillTrades_concat]
      split
      · exact balances_concat_zero (h.holding key) hqty
      · rw [List.append_nil]
        exact h.holding key
    · rw [hfees, hfee, add_zero]
      exact h.fees
    · intro event hmem
      rw [hconcat, List.map_append, List.mem_append]
      exact .inl (h.keys event hmem)
  · rw [hprocess]
    refine ⟨h.aligned, h.keyed, ?_, h.realized, ?_, ?_⟩
    · rw [acceptedFills_concat_quarantined fills hquarantined]
      exact h.holding
    · rw [hfees, hfee, add_zero]
      exact h.fees
    · rw [acceptedFills_concat_quarantined fills hquarantined]
      exact h.keys
  · have hconcat := acceptedFills_concat fills haccepted
    refine ⟨?_, LotBook.keyed_process h.keyed fill,
      h.holding_match hstep hfill haccepted hzero, ?_, ?_, ?_⟩
    · intro key
      by_cases hkey : positionKeyForFill fill.toFillEvent = key
      · subst hkey
        rw [(LotBook.process_own h.keyed hzero haccepted).1]
        exact (matchLots_spec hstep (h.aligned _) hfill).1
      · rw [(LotBook.sameUnder_process h.keyed hkey).1]
        exact h.aligned key
    · rw [hprocess, eventPnl_append, ← h.realized]
    · rw [hprocess, hfees, ← h.fees]
    · intro event hmem
      rw [hprocess] at hmem
      rw [hconcat, List.map_append, List.mem_append, List.map_singleton, List.mem_singleton]
      rcases List.mem_append.mp hmem with hmem | hmem
      · exact .inl (h.keys event hmem)
      · exact .inr ((matchLots_keyed fill (h.keyed _)).2 event hmem)

end Step

theorem accounts_foldl_process {fills : List FillRecord} (hstep : epsilon12 < step)
    (hgrid : ∀ fill ∈ fills, OnGrid step fill.fillQty) :
    (fills.foldl LotBook.process {}).Accounts step fills := by
  induction fills using List.reverseRecOn with
  | nil => exact accounts_nil step
  | append_singleton fills fill ih =>
    rw [List.foldl_append]
    apply (ih _).process hstep
    · exact hgrid fill (List.mem_append_right _ (List.mem_singleton_self _))
    · intro other hmem
      exact hgrid other (List.mem_append_left _ hmem)

theorem accounts_rebuildLotBook {fills : List FillRecord} (hstep : epsilon12 < step)
    (hgrid : ∀ fill ∈ fills, OnGrid step fill.fillQty) :
    (rebuildLotBook fills).Accounts step (sortedFills fills) :=
  accounts_foldl_process hstep (fun fill hmem => hgrid fill (mem_sortedFills.mp hmem))

/-! ### Fills that are put aside -/

namespace LotBook

/-- The book without what it remembers of fills that were put aside. -/
def core (book : LotBook) : LotBook :=
  { book with quarantinedFillIds := ∅, processingFailures := [] }

theorem core_process_quarantined (book : LotBook) (h : isQuarantined fill = true) :
    (book.process fill).core = book.core := by
  rcases book.process_cases fill with ⟨-, hno, -⟩ | ⟨-, -, failure, hprocess⟩ | ⟨-, hno, -⟩
  · rw [h] at hno
    cases hno
  · rw [hprocess]
    rfl
  · rw [h] at hno
    cases hno

theorem core_process (book : LotBook) (fill : FillRecord) :
    (book.process fill).core = (book.core.process fill).core := by
  unfold process
  split
  · rfl
  · split
    · rfl
    · rfl

theorem core_foldl_core (book : LotBook) (fills : List FillRecord) :
    (fills.foldl process book.core).core = (fills.foldl process book).core := by
  induction fills generalizing book with
  | nil => rfl
  | cons fill fills ih =>
    rw [List.foldl_cons, List.foldl_cons, ← ih, ← core_process, ih]

theorem core_foldl_process (book : LotBook) (fills : List FillRecord) :
    (fills.foldl process book).core = ((acceptedFills fills).foldl process book).core := by
  induction fills generalizing book with
  | nil => rfl
  | cons fill fills ih =>
    rw [List.foldl_cons, ih]
    cases hq : isQuarantined fill with
    | true =>
      have hrest : acceptedFills (fill :: fills) = acceptedFills fills := by
        simp [acceptedFills, hq]
      rw [hrest, ← core_foldl_core, core_process_quarantined book hq, core_foldl_core]
    | false =>
      have hrest : acceptedFills (fill :: fills) = fill :: acceptedFills fills := by
        simp [acceptedFills, hq]
      rw [hrest, List.foldl_cons]

end LotBook

theorem core_rebuildLotBook (fills : List FillRecord) :
    (rebuildLotBook fills).core = (rebuildLotBook (acceptedFills fills)).core := by
  have hsorted : acceptedFills (sortedFills fills) = sortedFills (acceptedFills fills) :=
    sortedFills_filter _ fills
  unfold rebuildLotBook
  rw [LotBook.core_foldl_process, hsorted]

theorem mem_appliedFillIds_rebuildLotBook {fills : List FillRecord} {id : String} :
    id ∈ (rebuildLotBook fills).appliedFillIds ↔
      ∃ fill ∈ fills, isQuarantined fill = false ∧ fill.fillId = id := by
  have hfold : ∀ fills : List FillRecord,
      id ∈ (fills.foldl LotBook.process {}).appliedFillIds ↔
        ∃ fill ∈ fills, isQuarantined fill = false ∧ fill.fillId = id := by
    intro fills
    induction fills using List.reverseRecOn with
    | nil => simp
    | append_singleton fills fill ih =>
      have hlast : (∃ other ∈ fills ++ [fill], isQuarantined other = false ∧ other.fillId = id) ↔
          (isQuarantined fill = false ∧ fill.fillId = id) ∨
            ∃ other ∈ fills, isQuarantined other = false ∧ other.fillId = id := by
        simp [or_and_right, exists_or, or_comm]
      rw [List.foldl_append, List.foldl_cons, List.foldl_nil, hlast, ← ih]
      rcases (fills.foldl LotBook.process {}).process_cases fill with
        ⟨-, hq, -, hprocess⟩ | ⟨hq, -, failure, hprocess⟩ | ⟨-, hq, hprocess⟩
      · rw [hprocess, Finset.mem_insert]
        simp [hq, eq_comm]
      · rw [hprocess]
        simp [hq]
      · rw [hprocess, Finset.mem_insert]
        simp [hq, eq_comm]
  unfold rebuildLotBook
  rw [hfold]
  simp only [mem_sortedFills]

end Aats.Portfolio
