import Aats.Portfolio.LotStructure

/-!
# The ids of lots and events

The id of a lot is a hash of its position key and the fill that opened it, that of an event a hash of
its fill, its kind and, for a closing, its number among those of the fill. The parts are joined by a
separator, so the texts that are hashed are told apart by it: those of events by their last parts, those
of lots by their first, which is the position key and must not have the separator in it.

## Main results
* `nodup_ids` — **no two lots or events have one id**, if no two texts have one hash.
* `sortedFills_eq_of_perm` — the fills are processed in the same order, however they are listed.
* `lotBook_structure` — **the structure of the book**, for every list of fills in every order.
-/

namespace Aats.Portfolio

open Execution (Timestamp)

/-! ### Texts -/

section Texts

variable {c : Char} {a b s t : List Char}

theorem eq_of_first_separator (ha : c ∉ a) (hb : c ∉ b) (h : a ++ c :: s = b ++ c :: t) :
    a = b ∧ s = t := by
  induction a generalizing b with
  | nil =>
    cases b with
    | nil => exact ⟨rfl, (List.cons.inj h).2⟩
    | cons d b => exact absurd (List.cons.inj h).1 (fun heq => hb (heq ▸ List.mem_cons_self))
  | cons d a ih =>
    cases b with
    | nil => exact absurd (List.cons.inj h).1.symm (fun heq => ha (heq ▸ List.mem_cons_self))
    | cons e b =>
      obtain ⟨rfl, hrest⟩ := List.cons.inj h
      obtain ⟨rfl, hs⟩ := ih (fun hmem => ha (List.mem_cons_of_mem _ hmem))
        (fun hmem => hb (List.mem_cons_of_mem _ hmem)) hrest
      exact ⟨rfl, hs⟩

theorem eq_of_last_separator (hs : c ∉ s) (ht : c ∉ t) (h : a ++ c :: s = b ++ c :: t) :
    a = b ∧ s = t := by
  have hreverse := congrArg List.reverse h
  simp only [List.reverse_append, List.reverse_cons, List.append_assoc, List.singleton_append]
    at hreverse
  obtain ⟨hlast, hfirst⟩ := eq_of_first_separator (fun hmem => hs (List.mem_reverse.mp hmem))
    (fun hmem => ht (List.mem_reverse.mp hmem)) hreverse
  exact ⟨List.reverse_injective hfirst, List.reverse_injective hlast⟩

end Texts

theorem isDigit_of_mem_toString {n : ℕ} {c : Char} (h : c ∈ (toString n).toList) :
    c.isDigit = true := by
  rw [show toString n = n.repr from rfl, Nat.toList_repr] at h
  exact Nat.isDigit_of_mem_toDigits (by norm_num) (by norm_num) h

theorem separator_not_mem_toString (n : ℕ) : '|' ∉ (toString n).toList :=
  fun h => absurd (isDigit_of_mem_toString h) (by decide)

theorem open_ne_toString (n : ℕ) : "open".toList ≠ (toString n).toList := by
  intro h
  have hmem : 'o' ∈ (toString n).toList := h ▸ List.mem_cons_self
  exact absurd (isDigit_of_mem_toString hmem) (by decide)

theorem toString_nat_injective {m n : ℕ} (h : toString m = toString n) : m = n := by
  have htext := congrArg (fun text : String => Nat.ofDigitChars 10 text.toList 0) h
  simpa [show ∀ k : ℕ, toString k = k.repr from fun _ => rfl, Nat.toList_repr,
    Nat.ofDigitChars_ten_toDigits] using htext

theorem joined_two (x y : String) : ("|".intercalate [x, y]).toList = x.toList ++ '|' :: y.toList := by
  simp

theorem joined_three (x y z : String) : ("|".intercalate [x, y, z]).toList =
    x.toList ++ '|' :: (y.toList ++ '|' :: z.toList) := by
  simp

theorem eventParts_injective {event other : LotEventRecord} {i j : ℕ}
    (h : "|".intercalate (eventParts event i) = "|".intercalate (eventParts other j)) :
    event.fillId = other.fillId ∧ event.eventType = other.eventType ∧
      (event.eventType = .closeLot → i = j) := by
  have htext := congrArg String.toList h
  have hopen : '|' ∉ "open".toList := by decide
  have hindex := separator_not_mem_toString
  unfold eventParts at htext
  cases htype : event.eventType <;> cases htype' : other.eventType <;>
    simp only [htype, htype', joined_two, joined_three] at htext
  case closeLot.closeLot =>
    rw [← List.cons_append, ← List.append_assoc, ← List.cons_append, ← List.append_assoc] at htext
    obtain ⟨hfirst, hlast⟩ := eq_of_last_separator (hindex i) (hindex j) htext
    refine ⟨String.toList_inj.mp (List.append_cancel_right hfirst), rfl, fun _ => ?_⟩
    exact toString_nat_injective (String.toList_inj.mp hlast)
  case openLot.openLot =>
    obtain ⟨hfirst, -⟩ := eq_of_last_separator hopen hopen htext
    exact ⟨String.toList_inj.mp hfirst, rfl, fun h => by cases h⟩
  case closeLot.openLot =>
    rw [← List.cons_append, ← List.append_assoc] at htext
    obtain ⟨-, hlast⟩ := eq_of_last_separator (hindex i) hopen htext
    exact absurd hlast.symm (open_ne_toString i)
  case openLot.closeLot =>
    rw [← List.cons_append, ← List.append_assoc] at htext
    obtain ⟨-, hlast⟩ := eq_of_last_separator hopen (hindex j) htext
    exact absurd hlast (open_ne_toString j)

theorem separator_not_mem_positionKey {fill : FillEvent} (h : '|' ∉ fill.symbol.toList) :
    '|' ∉ (positionKeyForFill fill).toList := by
  unfold positionKeyForFill buildPositionKey
  split
  · split <;> simp [h]
  · split <;> simp [h]

/-! ### Hashes that are told apart -/

/-- The texts that the ids of the lots and events of fills are hashes of. -/
inductive IdText (fills : List FillRecord) : String → Prop
  | lot (fill : FillRecord) (hfill : fill ∈ fills) :
      IdText fills ("|".intercalate (lotParts (positionKeyForFill fill.toFillEvent) fill.fillId))
  | event (event : LotEventRecord) (index : ℕ) (hevent : event.fillId ∈ fills.map (·.fillId)) :
      IdText fills ("|".intercalate (eventParts event index))

/-- No two of these texts have one hash. -/
def CollisionFree (digest : String → String) (fills : List FillRecord) : Prop :=
  ∀ s t, IdText fills s → IdText fills t → digest s = digest t → s = t

variable {digest : String → String} {fill : FillRecord} {fills : List FillRecord} {key : String}

theorem IdText.mono {more : List FillRecord} (h : fills ⊆ more) {text : String}
    (htext : IdText fills text) : IdText more text := by
  cases htext with
  | lot fill hfill => exact .lot fill (h hfill)
  | event event index hevent => exact .event event index (List.map_subset _ h hevent)

theorem CollisionFree.mono {more : List FillRecord} (h : CollisionFree digest more)
    (hsubset : fills ⊆ more) : CollisionFree digest fills :=
  fun s t hs ht heq => h s t (hs.mono hsubset) (ht.mono hsubset) heq

theorem CollisionFree.parts_eq (h : CollisionFree digest fills) {kind : String}
    {parts others : List String} (hparts : IdText fills ("|".intercalate parts))
    (hothers : IdText fills ("|".intercalate others))
    (heq : stableId digest kind parts = stableId digest kind others) :
    "|".intercalate parts = "|".intercalate others :=
  h _ _ hparts hothers ((String.append_right_inj _).mp heq)

/-! ### Lots -/

theorem nodup_lotIds (hids : (fills.map fun fill => fill.fillId).Nodup)
    (hdigest : CollisionFree digest fills) (hsymbols : ∀ fill ∈ fills, '|' ∉ fill.symbol.toList) :
    ((snapshotOf digest fills).lots.map (lotId digest)).Nodup := by
  have hperm := lots_perm_openedPairs digest fills
  have hpairs : ∀ pair ∈ (snapshotOf digest fills).lots.map pairOf, ∃ fill ∈ fills,
      (positionKeyForFill fill.toFillEvent, fill.fillId) = pair := fun pair hmem =>
    List.mem_map.mp ((openedPairs_sublist fills).subset (hperm.mem_iff.mp hmem))
  have hnodup : ((snapshotOf digest fills).lots.map pairOf).Nodup :=
    hperm.nodup_iff.mpr ((nodup_openedPairs hids).of_map _)
  have hids : (snapshotOf digest fills).lots.map (lotId digest) =
      ((snapshotOf digest fills).lots.map pairOf).map
        fun pair => stableId digest "lot" (lotParts pair.1 pair.2) := by
    rw [List.map_map]
    rfl
  rw [hids]
  refine List.Nodup.map_on ?_ hnodup
  intro pair hpair other hother heq
  obtain ⟨fill, hfill, rfl⟩ := hpairs pair hpair
  obtain ⟨fill', hfill', rfl⟩ := hpairs other hother
  have htext := congrArg String.toList
    (hdigest.parts_eq (.lot fill hfill) (.lot fill' hfill') heq)
  simp only [lotParts, joined_three] at htext
  obtain ⟨hkey, hrest⟩ := eq_of_first_separator
    (separator_not_mem_positionKey (hsymbols fill hfill))
    (separator_not_mem_positionKey (hsymbols fill' hfill')) htext
  exact Prod.ext (String.toList_inj.mp hkey)
    (String.toList_inj.mp (List.append_cancel_right hrest))

/-! ### Events -/

theorem closes_of_lt (fill : FillRecord) (lots : List PositionLot) {i j : ℕ}
    (hi : i < (matchLots fill lots).2.length) (hj : j < (matchLots fill lots).2.length)
    (hij : i < j) : (matchLots fill lots).2[i].eventType = .closeLot := by
  obtain ⟨closings, openings, heq, hclosings, hopenings⟩ := matchLots_events fill lots
  have hlength : openings.length ≤ 1 := by
    rcases hopenings with rfl | ⟨remaining, rfl⟩
    · exact Nat.zero_le _
    · exact le_rfl
  rw [heq, List.length_append] at hj
  have hclosing : i < closings.length := by omega
  have hget : (matchLots fill lots).2[i] = closings[i] := by
    simp only [heq]
    exact List.getElem_append_left hclosing
  rw [hget]
  exact (hclosings _ (List.getElem_mem hclosing)).1

theorem fillId_of_mem_matchLots (fill : FillRecord) (lots : List PositionLot) :
    ∀ event ∈ (matchLots fill lots).2, event.fillId = fill.fillId := by
  obtain ⟨closings, openings, heq, hclosings, hopenings⟩ := matchLots_events fill lots
  rw [heq]
  intro event hmem
  rcases List.mem_append.mp hmem with hmem | hmem
  · exact (hclosings event hmem).2
  · rcases hopenings with rfl | ⟨remaining, rfl⟩
    · exact absurd hmem List.not_mem_nil
    · rw [List.mem_singleton.mp hmem]
      rfl

theorem nodup_eventIds_matchLots (hdigest : CollisionFree digest fills) (hfill : fill ∈ fills)
    (lots : List PositionLot) : (eventIds digest (matchLots fill lots).2).Nodup := by
  have htext : ∀ event ∈ (matchLots fill lots).2, ∀ index,
      IdText fills ("|".intercalate (eventParts event index)) := by
    intro event hmem index
    refine .event event index ?_
    rw [fillId_of_mem_matchLots fill lots event hmem]
    exact List.mem_map_of_mem hfill
  unfold eventIds
  rw [List.Nodup, List.pairwise_iff_getElem]
  intro i j hi hj hij heq
  rw [List.length_mapIdx] at hi hj
  simp only [List.getElem_mapIdx] at heq
  have hparts := hdigest.parts_eq (htext _ (List.getElem_mem hi) i) (htext _ (List.getElem_mem hj) j) heq
  obtain ⟨-, -, hindex⟩ := eventParts_injective hparts
  exact absurd (hindex (closes_of_lt fill lots hi hj hij)) hij.ne

theorem nodup_eventIds (hids : (fills.map fun fill => fill.fillId).Nodup)
    (hdigest : CollisionFree digest fills) :
    (snapshotOf digest fills).eventIds.Nodup ∧
      ∀ id ∈ (snapshotOf digest fills).eventIds, ∃ event : LotEventRecord, ∃ index,
        event.fillId ∈ fills.map (·.fillId) ∧
          id = stableId digest "lotevt" (eventParts event index) := by
  induction fills using List.reverseRecOn with
  | nil => exact ⟨List.nodup_nil, fun id hmem => absurd hmem List.not_mem_nil⟩
  | append_singleton fills fill ih =>
    rw [List.map_append, List.nodup_append] at hids
    obtain ⟨hnodup, hold⟩ := ih hids.1 (hdigest.mono (List.subset_append_left _ _))
    have hlast : fill ∈ fills ++ [fill] := List.mem_append_right _ (List.mem_singleton_self _)
    have hmore : ∀ id ∈ (snapshotOf digest fills).eventIds, ∃ event : LotEventRecord, ∃ index,
        event.fillId ∈ (fills ++ [fill]).map (·.fillId) ∧
          id = stableId digest "lotevt" (eventParts event index) := by
      intro id hmem
      obtain ⟨event, index, hevent, hid⟩ := hold id hmem
      exact ⟨event, index, List.map_subset _ (List.subset_append_left _ _) hevent, hid⟩
    rw [snapshotOf_concat]
    cases hmatched : isMatched fill with
    | false =>
      rw [process_of_not_matched _ hmatched]
      exact ⟨hnodup, hmore⟩
    | true =>
      rw [process_of_matched _ hmatched]
      generalize (snapshotOf digest fills).book.lotsOf (positionKeyForFill fill.toFillEvent) = lots
      have hnew : ∀ id ∈ eventIds digest (matchLots fill lots).2, ∃ event : LotEventRecord, ∃ index,
          event.fillId = fill.fillId ∧ id = stableId digest "lotevt" (eventParts event index) := by
        intro id hmem
        obtain ⟨index, hindex, rfl⟩ := List.mem_mapIdx.mp hmem
        exact ⟨_, index, fillId_of_mem_matchLots fill lots _ (List.getElem_mem hindex), rfl⟩
      have hfillId : fill.fillId ∈ (fills ++ [fill]).map (·.fillId) := List.mem_map_of_mem hlast
      dsimp only
      refine ⟨List.nodup_append.mpr
        ⟨hnodup, nodup_eventIds_matchLots hdigest hlast lots, ?_⟩, ?_⟩
      · rintro id hmem other hother rfl
        obtain ⟨event, index, hevent, hid⟩ := hold id hmem
        obtain ⟨event', index', hevent', hid'⟩ := hnew id hother
        have hparts := hdigest.parts_eq
          (.event event index (List.map_subset _ (List.subset_append_left _ _) hevent))
          (.event event' index' (hevent' ▸ hfillId)) (hid.symm.trans hid')
        have hsame := (eventParts_injective hparts).1
        exact hids.2.2 event.fillId hevent fill.fillId (List.mem_singleton_self _)
          (hsame.trans hevent')
      · intro id hmem
        rcases List.mem_append.mp hmem with hmem | hmem
        · exact hmore id hmem
        · obtain ⟨event, index, hevent, hid⟩ := hnew id hmem
          exact ⟨event, index, hevent ▸ hfillId, hid⟩

theorem length_eventIds (digest : String → String) (fills : List FillRecord) :
    (snapshotOf digest fills).eventIds.length = (bookOf fills).events.length := by
  induction fills using List.reverseRecOn with
  | nil => rfl
  | append_singleton fills fill ih =>
    rw [snapshotOf_concat, bookOf_concat]
    cases hmatched : isMatched fill with
    | false =>
      rw [process_of_not_matched _ hmatched, (process_skipped (bookOf fills) hmatched).2.1]
      exact ih
    | true =>
      obtain ⟨hzero, haccepted⟩ := isMatched_eq_true.mp hmatched
      rw [process_of_matched _ hmatched, book_snapshotOf]
      dsimp only
      rw [LotBook.process_matched (bookOf fills) hzero haccepted, List.length_append,
        List.length_append, ih, eventIds, List.length_mapIdx]

theorem nodup_ids (hids : (fills.map fun fill => fill.fillId).Nodup)
    (hdigest : CollisionFree digest fills) (hsymbols : ∀ fill ∈ fills, '|' ∉ fill.symbol.toList) :
    ((snapshotOf digest fills).lots.map (lotId digest) ++ (snapshotOf digest fills).eventIds).Nodup := by
  obtain ⟨hevents, hparts⟩ := nodup_eventIds hids hdigest
  refine List.nodup_append.mpr ⟨nodup_lotIds hids hdigest hsymbols, hevents, ?_⟩
  rintro id hlot other hevent rfl
  obtain ⟨lot, -, hid⟩ := List.mem_map.mp hlot
  obtain ⟨event, index, -, hid'⟩ := hparts id hevent
  -- a lot id goes on with a separator where an event id goes on with a letter
  have htext := congrArg String.toList (hid.trans hid')
  simp [lotId, stableId] at htext

/-! ### The book -/

theorem eventPnl_events (fills : List FillRecord) :
    eventPnl (bookOf fills).events = (bookOf fills).realizedPnl := by
  induction fills using List.reverseRecOn with
  | nil => rfl
  | append_singleton fills fill ih =>
    rw [bookOf_concat]
    cases hmatched : isMatched fill with
    | false =>
      obtain ⟨-, hevents, hrealized⟩ := process_skipped (bookOf fills) hmatched
      rw [hevents, hrealized]
      exact ih
    | true =>
      obtain ⟨hzero, haccepted⟩ := isMatched_eq_true.mp hmatched
      rw [LotBook.process_matched _ hzero haccepted]
      show eventPnl (_ ++ _) = _ + _
      rw [eventPnl_append, ih]

/-- What holds of the snapshot of fills. A lot that is closed may leave up to the tolerance, and so may
a fill; everything else is exact. -/
structure LotBookStructure (digest : String → String) (fills : List FillRecord)
    (snapshot : LotBookSnapshot) : Prop where
  sameSign : ∀ key, (∀ lot ∈ snapshot.book.lotsOf key, 0 < lot.quantity) ∨
    ∀ lot ∈ snapshot.book.lotsOf key, lot.quantity < 0
  quantity : ∀ key, |lotQuantity (snapshot.book.lotsOf key) -
      ((matchedUnder key fills).map fun fill => signedQty fill.toFillEvent).sum| ≤
    (matchedUnder key fills).length * epsilon12
  firstInFirstOut : ∀ key, Runs.run (FifoQueue.step epsilon12) {} (movesOf key snapshot.book) =
    some (queueOf key snapshot)
  openLots : ∀ key, ∀ lot ∈ snapshot.book.lotsOf key,
    FifoQueue.amountIn lot.sourceFillId (movesOf key snapshot.book) =
      FifoQueue.amountOut lot.sourceFillId (movesOf key snapshot.book) + |lot.quantity|
  untouched : ∀ key, ∀ lot ∈ (snapshot.book.lotsOf key).tail,
    FifoQueue.amountOut lot.sourceFillId (movesOf key snapshot.book) = 0
  closedLots : ∀ row ∈ snapshot.closedLots,
    FifoQueue.amountOut row.lot.sourceFillId (movesOf row.lot.positionKey snapshot.book) ≤
        FifoQueue.amountIn row.lot.sourceFillId (movesOf row.lot.positionKey snapshot.book) ∧
      FifoQueue.amountIn row.lot.sourceFillId (movesOf row.lot.positionKey snapshot.book) ≤
        FifoQueue.amountOut row.lot.sourceFillId (movesOf row.lot.positionKey snapshot.book) +
          epsilon12
  realized : eventPnl snapshot.book.events = snapshot.book.realizedPnl
  eventIds : snapshot.eventIds.length = snapshot.book.events.length
  ids : CollisionFree digest fills → (∀ fill ∈ fills, '|' ∉ fill.symbol.toList) →
    (snapshot.lots.map (lotId digest) ++ snapshot.eventIds).Nodup

theorem sameSign_of_directed {lots : List PositionLot} (h : Directed lots) :
    (∀ lot ∈ lots, 0 < lot.quantity) ∨ ∀ lot ∈ lots, lot.quantity < 0 := by
  obtain ⟨side, hunit, hlots⟩ := h
  rcases hunit with rfl | rfl
  · refine .inl fun lot hmem => ?_
    linarith [hlots lot hmem, epsilon12_pos]
  · refine .inr fun lot hmem => ?_
    linarith [hlots lot hmem, epsilon12_pos]

theorem lotBookStructure_snapshotOf (digest : String → String)
    (hids : (fills.map fun fill => fill.fillId).Nodup) :
    LotBookStructure digest fills (snapshotOf digest fills) := by
  have haccounted : ∀ key, FifoQueue.Accounted epsilon12 (movesOf key (snapshotOf digest fills).book)
      (queueOf key (snapshotOf digest fills)) := by
    intro key
    refine FifoQueue.accounted_run (run_movesOf digest fills key) ?_
    rw [book_snapshotOf]
    exact nodup_entered hids key
  refine
    { sameSign := fun key => ?_
      quantity := fun key => ?_
      firstInFirstOut := run_movesOf digest fills
      openLots := fun key lot hmem => ?_
      untouched := fun key lot hmem => ?_
      closedLots := fun row hmem => ?_
      realized := ?_
      eventIds := ?_
      ids := nodup_ids hids }
  · rw [book_snapshotOf]
    exact sameSign_of_directed (directed_foldl_process fills key)
  · rw [book_snapshotOf]
    exact abs_lotQuantity_sub_le fills key
  · exact (haccounted key).kept (lot.sourceFillId, |lot.quantity|)
      (List.mem_map_of_mem (f := fun lot : PositionLot => (lot.sourceFillId, |lot.quantity|)) hmem)
  · refine (haccounted key).untouched (lot.sourceFillId, |lot.quantity|) ?_
    show _ ∈ (entriesOf ((snapshotOf digest fills).book.lotsOf key)).tail
    rw [entriesOf, ← List.map_tail]
    exact List.mem_map_of_mem (f := fun lot : PositionLot => (lot.sourceFillId, |lot.quantity|)) hmem
  · refine (haccounted row.lot.positionKey).spent row.lot.sourceFillId ?_
    exact List.mem_map.mpr ⟨row, List.mem_filter.mpr ⟨hmem, decide_eq_true rfl⟩, rfl⟩
  · rw [book_snapshotOf]
    exact eventPnl_events fills
  · rw [book_snapshotOf]
    exact length_eventIds digest fills

theorem LotBookStructure.perm {others : List FillRecord} {snapshot : LotBookSnapshot}
    (h : LotBookStructure digest fills snapshot) (hperm : fills.Perm others) :
    LotBookStructure digest others snapshot := by
  refine { h with quantity := fun key => ?_, ids := fun hdigest hsymbols => ?_ }
  · have hmatched : (matchedUnder key fills).Perm (matchedUnder key others) := hperm.filter _
    rw [← (hmatched.map _).sum_eq, ← hmatched.length_eq]
    exact h.quantity key
  · exact h.ids (hdigest.mono hperm.subset) fun fill hmem => hsymbols fill (hperm.mem_iff.mp hmem)

/-- **The structure of the lot book**, whatever the order in which the fills are given. -/
theorem lotBook_structure (digest : String → String) (fills : List FillRecord)
    (hids : (fills.map fun fill => fill.fillId).Nodup) :
    LotBookStructure digest fills (rebuildLotBookSnapshot digest fills) ∧
      ∀ others : List FillRecord, others.Perm fills →
        rebuildLotBookSnapshot digest others = rebuildLotBookSnapshot digest fills := by
  have hsorted := sortedFills_perm fills
  constructor
  · exact (lotBookStructure_snapshotOf digest
      ((hsorted.map _).nodup_iff.mpr hids)).perm hsorted
  · intro others hperm
    unfold rebuildLotBookSnapshot
    rw [sortedFills_eq_of_perm hperm hids]

/-- A coin that is bought and, but for half the tolerance, sold again. -/
def almostSold : List FillRecord :=
  let buy : FillRecord :=
    { fillId := "f1", symbol := "BTC-USDT", side := .buy, fillQty := 1, fillPrice := 100,
      feeAmount := 0, exchangeTimestamp := 1, ingestionTimestamp := 1 }
  [buy, { buy with
    fillId := "f2", side := .sell, fillQty := 1 - 1 / (2 * 10 ^ 12), exchangeTimestamp := 2 }]

theorem lotBook_structure_almostSold :
    LotBookStructure id almostSold (rebuildLotBookSnapshot id almostSold) ∧
      (rebuildLotBookSnapshot id almostSold).eventIds =
        ["lotevt_f1|open", "lotevt_f2|close|0"] :=
  ⟨(lotBook_structure id almostSold (by decide +kernel)).1, by decide +kernel⟩

/-- Two lots whose symbols and fills make one text. -/
def sharedText : List FillRecord :=
  let buy : FillRecord :=
    { fillId := "f|g", symbol := "BTC-USDT", side := .buy, fillQty := 1, fillPrice := 100,
      feeAmount := 0, exchangeTimestamp := 1, ingestionTimestamp := 1 }
  [buy, { buy with fillId := "g", symbol := "BTC-USDT|f", exchangeTimestamp := 2 }]

/-- **What is left of a lot or a fill is dropped when it is effectively nothing**, and the separator in
a symbol may make one text of two lots. -/
theorem lotBook_not_exact :
    (¬ ∀ (digest : String → String) (fills : List FillRecord),
      (fills.map fun fill => fill.fillId).Nodup → ∀ key,
        lotQuantity ((rebuildLotBookSnapshot digest fills).book.lotsOf key) =
          ((matchedUnder key fills).map fun fill => signedQty fill.toFillEvent).sum) ∧
    ¬ ∀ (digest : String → String) (fills : List FillRecord),
      (fills.map fun fill => fill.fillId).Nodup → CollisionFree digest fills →
        ((rebuildLotBookSnapshot digest fills).lots.map (lotId digest)).Nodup := by
  constructor
  · intro h
    have heq := h id almostSold (by decide +kernel) "BTC-USDT"
    exact absurd heq (by decide +kernel)
  · intro h
    have hnodup := h id sharedText (by decide +kernel) (fun s t _ _ heq => heq)
    exact absurd hnodup (by decide +kernel)

end Aats.Portfolio
