import Aats.Lib.FifoQueue
import Aats.Portfolio.PersistentLots

/-!
# The structure of the lot book

What `rebuild_lot_book` returns, with the closed lots and the ids of lots and events: under every
position key the events are the moves of a queue, so that lots are closed in the order in which they
were opened. Quantities are kept up to the tolerance: what a fill leaves of a lot, or a lot of a fill,
is dropped when it is effectively nothing.

## Main results
* `run_movesOf` — **the events of a key are first in, first out**, and the lots of the key are the queue.
* `abs_lotQuantity_sub_le` — **the lots come to the applied fills**, up to the tolerance for each fill.
-/

namespace Aats.Portfolio

open Execution (Timestamp)

/-! ### Ids -/

/-- `_stable_id`; `digest` is the shortened hash of a text. -/
def stableId (digest : String → String) (kind : String) (parts : List String) : String :=
  kind ++ "_" ++ digest ("|".intercalate parts)

def lotParts (positionKey fillId : String) : List String := [positionKey, fillId, "open"]

/-- The `lot_id` of a lot of a position key that a fill opened. -/
def lotId (digest : String → String) (lot : PositionLot) : String :=
  stableId digest "lot" (lotParts lot.positionKey lot.sourceFillId)

/-- The parts of the id of an event that is so many events after the first of its fill. -/
def eventParts (event : LotEventRecord) (index : ℕ) : List String :=
  match event.eventType with
  | .closeLot => [event.fillId, "close", toString index]
  | .openLot => [event.fillId, "open"]

/-- The `event_id`s of the events of a fill. -/
def eventIds (digest : String → String) (events : List LotEventRecord) : List String :=
  events.mapIdx fun index event => stableId digest "lotevt" (eventParts event index)

/-! ### The snapshot -/

def closedBy : List PositionLot → ℚ → List PositionLot
  | [], _ => []
  | lot :: lots, remaining =>
    if sameDirection lot.quantity remaining then []
    else if isEffectivelyZero (updatedLotQty lot.quantity remaining) then
      lot :: if isEffectivelyZero (leftQty lot.quantity remaining) then []
        else closedBy lots (leftQty lot.quantity remaining)
    else []

/-- An entry of `closed_lots`. -/
structure ClosedLot where
  lot : PositionLot
  closedAt : Timestamp
  deriving DecidableEq

/-- `LotBookSnapshot`: the book, its closed lots, and the ids of its events. -/
structure LotBookSnapshot where
  book : LotBook := {}
  closedLots : List ClosedLot := []
  eventIds : List String := []

/-- The fill is matched: it has a quantity, and a fee that can be valued. -/
def isMatched (fill : FillRecord) : Bool := !isEffectivelyZero fill.fillQty && !isQuarantined fill

/-- One fill of `rebuild_lot_book`. -/
def LotBookSnapshot.process (digest : String → String) (snapshot : LotBookSnapshot)
    (fill : FillRecord) : LotBookSnapshot :=
  let openLots := snapshot.book.lotsOf (positionKeyForFill fill.toFillEvent)
  if isMatched fill then
    { book := snapshot.book.process fill
      closedLots := snapshot.closedLots ++
        (closedBy openLots (signedQty fill.toFillEvent)).map fun lot =>
          { lot, closedAt := fill.ingestionTimestamp }
      eventIds := snapshot.eventIds ++ Portfolio.eventIds digest (matchLots fill openLots).2 }
  else { snapshot with book := snapshot.book.process fill }

def snapshotOf (digest : String → String) (fills : List FillRecord) : LotBookSnapshot :=
  fills.foldl (LotBookSnapshot.process digest) {}

/-- `rebuild_lot_book`, with the closed lots and the ids. -/
def rebuildLotBookSnapshot (digest : String → String) (fills : List FillRecord) : LotBookSnapshot :=
  snapshotOf digest (sortedFills fills)

/-- All lots of a snapshot: the open ones, then the closed ones. -/
def LotBookSnapshot.lots (snapshot : LotBookSnapshot) : List PositionLot :=
  openLots snapshot.book ++ snapshot.closedLots.map ClosedLot.lot

variable {digest : String → String} {fill : FillRecord} {fills : List FillRecord} {key : String}

theorem snapshotOf_concat (digest : String → String) (fills : List FillRecord) (fill : FillRecord) :
    snapshotOf digest (fills ++ [fill]) = (snapshotOf digest fills).process digest fill := by
  rw [snapshotOf, List.foldl_append]
  rfl

theorem book_process (snapshot : LotBookSnapshot) (fill : FillRecord) :
    (snapshot.process digest fill).book = snapshot.book.process fill := by
  unfold LotBookSnapshot.process
  dsimp only
  split <;> rfl

@[simp] theorem book_snapshotOf (digest : String → String) (fills : List FillRecord) :
    (snapshotOf digest fills).book = bookOf fills := by
  induction fills using List.reverseRecOn with
  | nil => rfl
  | append_singleton fills fill ih => rw [snapshotOf_concat, book_process, ih, bookOf_concat]

theorem process_of_matched (snapshot : LotBookSnapshot) (h : isMatched fill = true) :
    snapshot.process digest fill =
      { book := snapshot.book.process fill
        closedLots := snapshot.closedLots ++
          (closedBy (snapshot.book.lotsOf (positionKeyForFill fill.toFillEvent))
            (signedQty fill.toFillEvent)).map fun lot => { lot, closedAt := fill.ingestionTimestamp }
        eventIds := snapshot.eventIds ++ eventIds digest
          (matchLots fill (snapshot.book.lotsOf (positionKeyForFill fill.toFillEvent))).2 } :=
  if_pos h

theorem process_of_not_matched (snapshot : LotBookSnapshot) (h : isMatched fill = false) :
    snapshot.process digest fill = { snapshot with book := snapshot.book.process fill } :=
  if_neg (Bool.eq_false_iff.mp h)

theorem isMatched_eq_true :
    isMatched fill = true ↔ isEffectivelyZero fill.fillQty = false ∧ isQuarantined fill = false := by
  simp [isMatched]

theorem process_skipped (book : LotBook) (h : isMatched fill = false) :
    (book.process fill).lots = book.lots ∧ (book.process fill).events = book.events ∧
      (book.process fill).realizedPnl = book.realizedPnl := by
  rcases book.process_cases fill with ⟨-, -, -, hprocess⟩ | ⟨-, -, failure, hprocess⟩ |
    ⟨hzero, haccepted, -⟩
  · rw [hprocess]
    exact ⟨rfl, rfl, rfl⟩
  · rw [hprocess]
    exact ⟨rfl, rfl, rfl⟩
  · rw [isMatched_eq_true.mpr ⟨hzero, haccepted⟩] at h
    cases h

/-! ### Lots as a queue -/

def moveOf (event : LotEventRecord) : FifoQueue.Move String ℚ :=
  match event.eventType with
  | .openLot => .enter event.lotSourceFillId event.quantity
  | .closeLot => .take event.lotSourceFillId event.quantity

def entriesOf (lots : List PositionLot) : List (String × ℚ) :=
  lots.map fun lot => (lot.sourceFillId, |lot.quantity|)

section Matching

variable {lots : List PositionLot} {remaining : ℚ} {gone : List String}

theorem abs_updatedLotQty {lotQty : ℚ} (h : sameDirection lotQty remaining = false) :
    |updatedLotQty lotQty remaining| = |lotQty| - min |lotQty| |remaining| := by
  obtain ⟨-, hsides⟩ := opposite_of_sameDirection_eq_false h
  have hmin := min_le_left |lotQty| |remaining|
  unfold updatedLotQty
  rcases hsides with ⟨hlot, -⟩ | ⟨hlot, -⟩
  · rw [if_pos hlot]
    rw [abs_of_pos hlot] at hmin ⊢
    exact abs_of_nonneg (by linarith)
  · rw [if_neg (not_lt.mpr hlot.le)]
    rw [abs_of_neg hlot] at hmin ⊢
    rw [abs_of_nonpos (by linarith)]
    ring

theorem used_up {lotQty : ℚ} (h : sameDirection lotQty remaining = false) :
    (updatedLotQty lotQty remaining = 0 ∧ leftQty lotQty remaining = remaining + lotQty) ∨
      (updatedLotQty lotQty remaining = lotQty + remaining ∧ leftQty lotQty remaining = 0) := by
  obtain ⟨⟨-, hrem⟩, -⟩ := opposite_of_sameDirection_eq_false h
  obtain ⟨side, -, hside⟩ := exists_side hrem
  obtain ⟨-, ⟨hupdated, hleft, -⟩ | ⟨hupdated, hleft, -⟩⟩ := close_cases (epsilon12_pos.trans hside) h
  · exact .inl ⟨hupdated, hleft⟩
  · exact .inr ⟨hupdated, hleft⟩

theorem step_closeEvent {lot : PositionLot} (h : sameDirection lot.quantity remaining = false) :
    FifoQueue.step epsilon12 { queue := entriesOf (lot :: lots), gone }
        (moveOf (closeEvent fill lot (min |lot.quantity| |remaining|))) =
      if isEffectivelyZero (updatedLotQty lot.quantity remaining) then
        some { queue := entriesOf lots, gone := gone ++ [lot.sourceFillId] }
      else
        some { queue := entriesOf
                ({ lot with quantity := updatedLotQty lot.quantity remaining } :: lots), gone } := by
  obtain ⟨⟨hlot, hrem⟩, -⟩ := opposite_of_sameDirection_eq_false h
  have hpos : 0 < min |lot.quantity| |remaining| :=
    lt_min (epsilon12_pos.trans hlot) (epsilon12_pos.trans hrem)
  have hupdated := abs_updatedLotQty h
  have hkept : entriesOf ({ lot with quantity := updatedLotQty lot.quantity remaining } :: lots) =
      (lot.sourceFillId, |lot.quantity| - min |lot.quantity| |remaining|) :: entriesOf lots := by
    rw [← hupdated]
    rfl
  rw [hkept]
  show (if _ ∧ _ ∧ _ then if |lot.quantity| - min |lot.quantity| |remaining| ≤ epsilon12 then _ else _
    else _) = _
  rw [if_pos ⟨rfl, hpos, min_le_left _ _⟩]
  unfold isEffectivelyZero
  rw [hupdated]
  simp only [decide_eq_true_eq]
  rfl

theorem run_closeLots (fill : FillRecord) (lots : List PositionLot) (remaining : ℚ)
    (gone : List String) :
    Runs.run (FifoQueue.step epsilon12) { queue := entriesOf lots, gone }
        ((closeLots fill lots remaining).events.map moveOf) =
      some { queue := entriesOf (closeLots fill lots remaining).lots
             gone := gone ++ (closedBy lots remaining).map PositionLot.sourceFillId } := by
  induction lots generalizing remaining gone with
  | nil =>
    show some _ = some _
    simp [closeLots, closedBy]
  | cons lot lots ih =>
    rcases loop_cases lot.quantity remaining with hsame | ⟨hopposite, hupdated, hleft⟩ |
      ⟨hopposite, hupdated, hleft⟩ | ⟨hopposite, hupdated⟩
    · rw [closeLots_same fill lots hsame, closedBy, if_pos hsame]
      simp
    · rw [closeLots_last hopposite fill lots hupdated hleft, closedBy,
        if_neg (Bool.eq_false_iff.mp hopposite), if_pos hupdated, if_pos hleft]
      refine Runs.run_cons_eq_some.mpr ⟨_, (step_closeEvent hopposite).trans (if_pos hupdated), ?_⟩
      rfl
    · rw [closeLots_next hopposite fill lots hupdated hleft, closedBy,
        if_neg (Bool.eq_false_iff.mp hopposite), if_pos hupdated, if_neg (Bool.eq_false_iff.mp hleft)]
      refine Runs.run_cons_eq_some.mpr ⟨_, (step_closeEvent hopposite).trans (if_pos hupdated), ?_⟩
      have hrest := ih (leftQty lot.quantity remaining) (gone ++ [lot.sourceFillId])
      rw [List.append_assoc] at hrest
      exact hrest
    · rw [closeLots_shrunk hopposite fill lots hupdated, closedBy,
        if_neg (Bool.eq_false_iff.mp hopposite), if_neg (Bool.eq_false_iff.mp hupdated)]
      refine Runs.run_cons_eq_some.mpr
        ⟨_, (step_closeEvent hopposite).trans (if_neg (Bool.eq_false_iff.mp hupdated)), ?_⟩
      simp

theorem run_matchLots (fill : FillRecord) (lots : List PositionLot) (gone : List String) :
    Runs.run (FifoQueue.step epsilon12) { queue := entriesOf lots, gone }
        ((matchLots fill lots).2.map moveOf) =
      some { queue := entriesOf (matchLots fill lots).1
             gone := gone ++
              (closedBy lots (signedQty fill.toFillEvent)).map PositionLot.sourceFillId } := by
  have hclosed := run_closeLots fill lots (signedQty fill.toFillEvent) gone
  unfold matchLots
  extract_lets closed
  split
  · exact hclosed
  · rw [List.map_append, Runs.run_append hclosed]
    show some _ = some _
    simp [entriesOf, newLot, openEvent, closed]

theorem mem_of_mem_closedBy {lots : List PositionLot} {remaining : ℚ} {lot : PositionLot}
    (h : lot ∈ closedBy lots remaining) : lot ∈ lots := by
  induction lots generalizing remaining with
  | nil => exact h
  | cons oldest lots ih =>
    rw [closedBy] at h
    split at h
    · exact absurd h List.not_mem_nil
    · split at h
      · rcases List.mem_cons.mp h with rfl | h
        · exact List.mem_cons_self
        · split at h
          · exact absurd h List.not_mem_nil
          · exact List.mem_cons_of_mem _ (ih h)
      · exact absurd h List.not_mem_nil

/-- **What closing lots leaves comes to the lots and the fill**, up to the tolerance. Of the two, the
lot and the rest of the fill, one is used up exactly. -/
theorem abs_closeLots_sub_le (fill : FillRecord) (lots : List PositionLot) (hrem : epsilon12 < |remaining|) :
    |lotQuantity (closeLots fill lots remaining).lots + (closeLots fill lots remaining).remaining -
        (lotQuantity lots + remaining)| ≤ epsilon12 ∧
      ((closeLots fill lots remaining).remaining = 0 ∨
        epsilon12 < |(closeLots fill lots remaining).remaining|) := by
  induction lots generalizing remaining with
  | nil =>
    refine ⟨?_, .inr hrem⟩
    show |lotQuantity [] + remaining - (lotQuantity [] + remaining)| ≤ epsilon12
    rw [sub_self, abs_zero]
    exact epsilon12_pos.le
  | cons lot lots ih =>
    rcases loop_cases lot.quantity remaining with hsame | ⟨hopposite, hupdated, hleft⟩ |
      ⟨hopposite, hupdated, hleft⟩ | ⟨hopposite, hupdated⟩
    · rw [closeLots_same fill lots hsame]
      refine ⟨?_, .inr hrem⟩
      dsimp only
      rw [sub_self, abs_zero]
      exact epsilon12_pos.le
    · rw [closeLots_last hopposite fill lots hupdated hleft]
      refine ⟨?_, .inl rfl⟩
      rw [isEffectivelyZero, decide_eq_true_eq] at hupdated hleft
      rw [lotQuantity_cons]
      dsimp only
      rcases used_up hopposite with ⟨-, heq⟩ | ⟨heq, -⟩
      · have hdropped : lotQuantity lots + 0 - (lot.quantity + lotQuantity lots + remaining) =
            -leftQty lot.quantity remaining := by
          rw [heq]
          ring
        rw [hdropped, abs_neg]
        exact hleft
      · have hdropped : lotQuantity lots + 0 - (lot.quantity + lotQuantity lots + remaining) =
            -updatedLotQty lot.quantity remaining := by
          rw [heq]
          ring
        rw [hdropped, abs_neg]
        exact hupdated
    · rw [closeLots_next hopposite fill lots hupdated hleft]
      have hmore := isEffectivelyZero_eq_false.mp hleft
      rcases used_up hopposite with ⟨-, heq⟩ | ⟨-, hzero⟩
      · have hrest := ih hmore
        refine ⟨?_, hrest.2⟩
        have hsame : lotQuantity (lot :: lots) + remaining =
            lotQuantity lots + leftQty lot.quantity remaining := by
          rw [lotQuantity_cons, heq]
          ring
        rw [hsame]
        exact hrest.1
      · rw [hzero, abs_zero] at hmore
        exact absurd hmore (not_lt.mpr epsilon12_pos.le)
    · rw [closeLots_shrunk hopposite fill lots hupdated]
      refine ⟨?_, .inl rfl⟩
      have hmore := isEffectivelyZero_eq_false.mp hupdated
      rcases used_up hopposite with ⟨hzero, -⟩ | ⟨heq, -⟩
      · rw [hzero, abs_zero] at hmore
        exact absurd hmore (not_lt.mpr epsilon12_pos.le)
      · rw [lotQuantity_cons, lotQuantity_cons]
        dsimp only
        have hsame : updatedLotQty lot.quantity remaining + lotQuantity lots + 0 -
            (lot.quantity + lotQuantity lots + remaining) = 0 := by
          rw [heq]
          ring
        rw [hsame, abs_zero]
        exact epsilon12_pos.le

theorem abs_matchLots_sub_le (lots : List PositionLot) (hzero : isEffectivelyZero fill.fillQty = false) :
    |lotQuantity (matchLots fill lots).1 - (lotQuantity lots + signedQty fill.toFillEvent)| ≤
      epsilon12 := by
  obtain ⟨hclose, hremaining⟩ :=
    abs_closeLots_sub_le fill lots (epsilon12_lt_abs_signedQty hzero)
  unfold matchLots
  extract_lets closed
  split
  · next hnothing =>
    have hnone : closed.remaining = 0 := by
      rcases hremaining with hnone | hsome
      · exact hnone
      · rw [isEffectivelyZero, decide_eq_true_eq] at hnothing
        exact absurd hnothing (not_le.mpr hsome)
    have hclose' : |lotQuantity closed.lots + closed.remaining -
      (lotQuantity lots + signedQty fill.toFillEvent)| ≤ epsilon12 := hclose
    rwa [hnone, add_zero] at hclose'
  · rw [lotQuantity_concat]
    exact hclose

end Matching

/-! ### The lots and events of a key -/

def movesOf (key : String) (book : LotBook) : List (FifoQueue.Move String ℚ) :=
  (book.events.filter (·.positionKey = key)).map moveOf

/-- The closed lots of a key, by the fills that opened them. -/
def goneOf (key : String) (snapshot : LotBookSnapshot) : List String :=
  (snapshot.closedLots.filter (·.lot.positionKey = key)).map (·.lot.sourceFillId)

def queueOf (key : String) (snapshot : LotBookSnapshot) : FifoQueue.State String ℚ where
  queue := entriesOf (snapshot.book.lotsOf key)
  gone := goneOf key snapshot

def matchedUnder (key : String) (fills : List FillRecord) : List FillRecord :=
  fills.filter fun fill => isMatched fill && (positionKeyForFill fill.toFillEvent = key)

theorem goneOf_process (snapshot : LotBookSnapshot) (hkeyed : snapshot.book.Keyed)
    (fill : FillRecord) : goneOf key (snapshot.process digest fill) = goneOf key snapshot ++
      if isMatched fill ∧ positionKeyForFill fill.toFillEvent = key then
        (closedBy (snapshot.book.lotsOf key) (signedQty fill.toFillEvent)).map (·.sourceFillId)
      else [] := by
  cases hmatched : isMatched fill with
  | false =>
    rw [process_of_not_matched snapshot hmatched, if_neg fun h => Bool.false_ne_true h.1,
      List.append_nil]
    rfl
  | true =>
    have hclosed : ∀ lot ∈ closedBy (snapshot.book.lotsOf (positionKeyForFill fill.toFillEvent))
        (signedQty fill.toFillEvent), lot.positionKey = positionKeyForFill fill.toFillEvent :=
      fun lot hmem => hkeyed _ lot (mem_of_mem_closedBy hmem)
    rw [process_of_matched snapshot hmatched]
    unfold goneOf
    dsimp only
    rw [List.filter_append, List.map_append, List.filter_map]
    congr 1
    by_cases hkey : positionKeyForFill fill.toFillEvent = key
    · subst hkey
      rw [if_pos ⟨rfl, rfl⟩, List.filter_eq_self.mpr, List.map_map]
      · rfl
      · intro lot hmem
        exact decide_eq_true (hclosed lot hmem)
    · rw [if_neg fun h => hkey h.2, List.filter_eq_nil_iff.mpr]
      · rfl
      · intro lot hmem h
        exact hkey ((hclosed lot hmem).symm.trans (of_decide_eq_true h))

/-- **The events of a key are first in, first out**: they are the moves of a queue that ends with the
open lots of the key, after the closed ones. -/
theorem run_movesOf (digest : String → String) (fills : List FillRecord) (key : String) :
    Runs.run (FifoQueue.step epsilon12) {} (movesOf key (snapshotOf digest fills).book) =
      some (queueOf key (snapshotOf digest fills)) := by
  unfold movesOf queueOf
  simp only [book_snapshotOf]
  induction fills using List.reverseRecOn with
  | nil => rfl
  | append_singleton fills fill ih =>
    have hkeyed : (snapshotOf digest fills).book.Keyed := by
      rw [book_snapshotOf]
      exact keyed_foldl_process fills
    rw [snapshotOf_concat, goneOf_process _ hkeyed, bookOf_concat]
    rw [book_snapshotOf] at hkeyed ⊢
    cases hmatched : isMatched fill with
    | false =>
      obtain ⟨hlots, hevents, -⟩ := process_skipped (bookOf fills) hmatched
      rw [if_neg fun h => Bool.false_ne_true h.1, List.append_nil, hevents]
      unfold LotBook.lotsOf
      rw [hlots]
      exact ih
    | true =>
      obtain ⟨hzero, haccepted⟩ := isMatched_eq_true.mp hmatched
      by_cases hkey : positionKeyForFill fill.toFillEvent = key
      · subst hkey
        obtain ⟨hlots, hevents⟩ := LotBook.process_own hkeyed hzero haccepted
        rw [if_pos ⟨rfl, rfl⟩, hlots, hevents, List.map_append, Runs.run_append ih]
        exact run_matchLots fill _ _
      · obtain ⟨hlots, hevents⟩ := LotBook.sameUnder_process hkeyed hkey
        rw [if_neg fun h => hkey h.2, List.append_nil, hlots, hevents]
        exact ih

theorem abs_lotQuantity_sub_le (fills : List FillRecord) (key : String) :
    |lotQuantity ((bookOf fills).lotsOf key) -
        ((matchedUnder key fills).map fun fill => signedQty fill.toFillEvent).sum| ≤
      (matchedUnder key fills).length * epsilon12 := by
  induction fills using List.reverseRecOn with
  | nil =>
    show |lotQuantity [] - 0| ≤ _
    simp [matchedUnder]
  | append_singleton fills fill ih =>
    have hkeyed := keyed_foldl_process fills
    have hmore : matchedUnder key (fills ++ [fill]) = matchedUnder key fills ++
        if isMatched fill ∧ positionKeyForFill fill.toFillEvent = key then [fill] else [] := by
      unfold matchedUnder
      rw [List.filter_append, List.filter_singleton]
      simp
    rw [bookOf_concat, hmore]
    cases hmatched : isMatched fill with
    | false =>
      rw [if_neg fun h => Bool.false_ne_true h.1, List.append_nil]
      unfold LotBook.lotsOf
      rw [(process_skipped (bookOf fills) hmatched).1]
      exact ih
    | true =>
      obtain ⟨hzero, haccepted⟩ := isMatched_eq_true.mp hmatched
      by_cases hkey : positionKeyForFill fill.toFillEvent = key
      · subst hkey
        rw [if_pos ⟨rfl, rfl⟩, (LotBook.process_own hkeyed hzero haccepted).1, List.map_append,
          List.sum_append, List.length_append]
        have hfill := abs_matchLots_sub_le
          ((bookOf fills).lotsOf (positionKeyForFill fill.toFillEvent)) hzero
        simp only [List.map_cons, List.map_nil, List.sum_cons, List.sum_nil, List.length_cons,
          List.length_nil, add_zero, zero_add]
        push_cast
        rw [abs_le] at ih hfill ⊢
        constructor <;> linarith [ih.1, ih.2, hfill.1, hfill.2]
      · rw [if_neg fun h => hkey h.2, List.append_nil,
          (LotBook.sameUnder_process hkeyed hkey).1]
        exact ih

/-! ### The lots that were opened -/

/-- The lots that events opened, by their key and the fill that opened them. -/
def openedPairs (events : List LotEventRecord) : List (String × String) :=
  (events.filter (·.eventType = .openLot)).map fun event => (event.positionKey, event.lotSourceFillId)

def pairOf (lot : PositionLot) : String × String := (lot.positionKey, lot.sourceFillId)

theorem eventType_closeLots {lots : List PositionLot} {remaining : ℚ} :
    ∀ event ∈ (closeLots fill lots remaining).events,
      event.eventType = .closeLot ∧ event.fillId = fill.fillId := by
  induction lots generalizing remaining with
  | nil => exact fun _ hmem => absurd hmem List.not_mem_nil
  | cons lot lots ih =>
    rcases loop_cases lot.quantity remaining with hsame | ⟨hopposite, hupdated, hleft⟩ |
      ⟨hopposite, hupdated, hleft⟩ | ⟨hopposite, hupdated⟩
    · rw [closeLots_same fill lots hsame]
      exact fun _ hmem => absurd hmem List.not_mem_nil
    · rw [closeLots_last hopposite fill lots hupdated hleft]
      intro event hmem
      rw [List.mem_singleton.mp hmem]
      exact ⟨rfl, rfl⟩
    · rw [closeLots_next hopposite fill lots hupdated hleft]
      intro event hmem
      rcases List.mem_cons.mp hmem with rfl | hmem
      · exact ⟨rfl, rfl⟩
      · exact ih event hmem
    · rw [closeLots_shrunk hopposite fill lots hupdated]
      intro event hmem
      rw [List.mem_singleton.mp hmem]
      exact ⟨rfl, rfl⟩

theorem matchLots_events (fill : FillRecord) (lots : List PositionLot) :
    ∃ closings openings, (matchLots fill lots).2 = closings ++ openings ∧
      (∀ event ∈ closings, event.eventType = .closeLot ∧ event.fillId = fill.fillId) ∧
      (openings = [] ∨ ∃ remaining, openings = [openEvent fill remaining]) := by
  unfold matchLots
  extract_lets closed
  split
  · exact ⟨closed.events, [], (List.append_nil _).symm, eventType_closeLots, .inl rfl⟩
  · exact ⟨closed.events, _, rfl, eventType_closeLots, .inr ⟨_, rfl⟩⟩

theorem openedPairs_append (events more : List LotEventRecord) :
    openedPairs (events ++ more) = openedPairs events ++ openedPairs more := by
  simp [openedPairs]

theorem openedPairs_matchLots (fill : FillRecord) (lots : List PositionLot) :
    List.Sublist (openedPairs (matchLots fill lots).2)
      [(positionKeyForFill fill.toFillEvent, fill.fillId)] := by
  obtain ⟨closings, openings, heq, hclosings, hopenings⟩ := matchLots_events fill lots
  have hnone : openedPairs closings = [] := by
    rw [openedPairs, List.filter_eq_nil_iff.mpr, List.map_nil]
    intro event hmem h
    rw [(hclosings event hmem).1, decide_eq_true_eq] at h
    cases h
  rw [heq, openedPairs_append, hnone, List.nil_append]
  rcases hopenings with rfl | ⟨remaining, rfl⟩
  · exact List.nil_sublist _
  · exact List.Sublist.refl _

theorem openedPairs_sublist (fills : List FillRecord) :
    List.Sublist (openedPairs (bookOf fills).events)
      (fills.map fun fill => (positionKeyForFill fill.toFillEvent, fill.fillId)) := by
  induction fills using List.reverseRecOn with
  | nil => exact List.Sublist.refl _
  | append_singleton fills fill ih =>
    rw [bookOf_concat, List.map_append]
    cases hmatched : isMatched fill with
    | false =>
      rw [(process_skipped (bookOf fills) hmatched).2.1]
      exact ih.trans (List.sublist_append_left _ _)
    | true =>
      obtain ⟨hzero, haccepted⟩ := isMatched_eq_true.mp hmatched
      rw [LotBook.process_matched _ hzero haccepted, openedPairs_append]
      exact ih.append (openedPairs_matchLots fill _)

theorem openedPairs_cons (event : LotEventRecord) (events : List LotEventRecord) :
    openedPairs (event :: events) =
      if event.eventType = .openLot then
        (event.positionKey, event.lotSourceFillId) :: openedPairs events
      else openedPairs events := by
  unfold openedPairs
  rw [List.filter_cons]
  split
  · next h => rw [if_pos (of_decide_eq_true h), List.map_cons]
  · next h => rw [if_neg (fun hopen => h (decide_eq_true hopen))]

theorem entered_moveOf_cons (event : LotEventRecord) (moves : List (FifoQueue.Move String ℚ)) :
    FifoQueue.entered (moveOf event :: moves) =
      if event.eventType = .openLot then event.lotSourceFillId :: FifoQueue.entered moves
      else FifoQueue.entered moves := by
  unfold moveOf
  cases event.eventType <;> rfl

theorem entered_movesOf (key : String) (book : LotBook) :
    FifoQueue.entered (movesOf key book) =
      ((openedPairs book.events).filter (·.1 = key)).map Prod.snd := by
  unfold movesOf
  induction book.events with
  | nil => rfl
  | cons event events ih =>
    rw [openedPairs_cons]
    by_cases hkey : event.positionKey = key
    · rw [List.filter_cons_of_pos (by simpa using hkey), List.map_cons, entered_moveOf_cons, ih]
      split
      · rw [List.filter_cons_of_pos (by simpa using hkey), List.map_cons]
      · rfl
    · rw [List.filter_cons_of_neg (by simpa using hkey), ih]
      split
      · rw [List.filter_cons_of_neg (by simpa using hkey)]
      · rfl

theorem nodup_openedPairs (hids : (fills.map fun fill => fill.fillId).Nodup) :
    ((openedPairs (bookOf fills).events).map Prod.snd).Nodup := by
  have hsources := (openedPairs_sublist fills).map Prod.snd
  rw [List.map_map] at hsources
  exact hids.sublist hsources

theorem nodup_entered (hids : (fills.map fun fill => fill.fillId).Nodup) (key : String) :
    (FifoQueue.entered (movesOf key (bookOf fills))).Nodup := by
  rw [entered_movesOf]
  exact (nodup_openedPairs hids).sublist (List.filter_sublist.map _)

theorem countP_openLots {book : LotBook} (hkeyed : book.Keyed) (pair : String × String) :
    (openLots book).countP (pairOf · = pair) =
      ((book.lotsOf pair.1).map PositionLot.sourceFillId).count pair.2 := by
  have hunder : ∀ key, (book.lotsOf key).countP (pairOf · = pair) =
      if key = pair.1 then ((book.lotsOf pair.1).map PositionLot.sourceFillId).count pair.2 else 0 := by
    intro key
    split
    · next hkey =>
      rw [hkey, List.count, List.countP_map]
      refine List.countP_congr fun lot hmem => ?_
      have hlot := hkeyed pair.1 lot hmem
      unfold pairOf
      simp only [decide_eq_true_eq, Function.comp_apply, beq_iff_eq]
      rw [hlot]
      exact ⟨fun h => congrArg Prod.snd h, fun h => Prod.ext rfl h⟩
    · next hkey =>
      refine List.countP_eq_zero.mpr fun lot hmem h => hkey ?_
      rw [← hkeyed key lot hmem]
      exact congrArg Prod.fst (of_decide_eq_true h)
  rw [openLots, List.countP_flatMap]
  refine (Dict.sum_entries book.lots (fun _ lots => List.countP (pairOf · = pair) lots) {pair.1}
    fun key lots hlookup hne => ?_).trans ?_
  · have hlots : book.lotsOf key = lots := by rw [LotBook.lotsOf, hlookup, Option.getD_some]
    rw [Finset.mem_singleton]
    by_contra hkey
    rw [← hlots, hunder, if_neg hkey] at hne
    exact hne rfl
  · have hpair := hunder pair.1
    rw [if_pos rfl] at hpair
    rw [Finset.sum_singleton, ← hpair, LotBook.lotsOf]
    cases book.lots.lookup pair.1 with
    | none => rfl
    | some lots => rfl

theorem lots_perm_openedPairs (digest : String → String) (fills : List FillRecord) :
    ((snapshotOf digest fills).lots.map pairOf).Perm (openedPairs (bookOf fills).events) := by
  rw [List.perm_iff_count]
  intro pair
  have horder := FifoQueue.entered_eq (run_movesOf digest fills pair.1)
  rw [book_snapshotOf, entered_movesOf] at horder
  have hcount := congrArg (List.count pair.2) horder
  have hopen := countP_openLots (keyed_foldl_process fills) pair
  have hclosed : ((snapshotOf digest fills).closedLots.map ClosedLot.lot).countP (pairOf · = pair) =
      (goneOf pair.1 (snapshotOf digest fills)).count pair.2 := by
    rw [goneOf, List.count, List.countP_map, List.countP_map, List.countP_filter]
    refine List.countP_congr fun row _ => ?_
    simp [pairOf, Prod.ext_iff, and_comm]
  have hopened : (((openedPairs (bookOf fills).events).filter (·.1 = pair.1)).map Prod.snd).count
      pair.2 = (openedPairs (bookOf fills).events).count pair := by
    rw [List.count, List.count, List.countP_map, List.countP_filter]
    refine List.countP_congr fun opened _ => ?_
    simp [Prod.ext_iff, and_comm]
  have hqueue : (queueOf pair.1 (snapshotOf digest fills)).queue.map Prod.fst =
      ((bookOf fills).lotsOf pair.1).map PositionLot.sourceFillId := by
    unfold queueOf entriesOf
    rw [book_snapshotOf, List.map_map]
    rfl
  have hgone : (queueOf pair.1 (snapshotOf digest fills)).gone =
      goneOf pair.1 (snapshotOf digest fills) := rfl
  rw [List.count_append, hqueue, hgone, hopened] at hcount
  rw [← hcount, ← hopen, ← hclosed, LotBookSnapshot.lots, book_snapshotOf, List.count,
    List.countP_map, List.countP_append, add_comm]
  congr 1 <;> exact List.countP_congr fun lot _ => by simp

end Aats.Portfolio
