import Aats.Portfolio.PersistentLots

/-!
# The inventory of a strategy sleeve

`services/strategy_engines/sleeve_inventory.py`: the quantity that a sleeve holds in a scope is the
sum of the stored open lots that it opened, or, without a lot store, the position that its own fills
add up to. The stored lots are matched over all sleeves of a position key, so a fill may close the
lot of another sleeve, which the fallback does not see.

## Main results
* `quantityFromFills_eq` — the fallback is the sum of the lots of the sleeve's own fills.
* `sleeveInventory_iff` — **the two agree after every fill exactly if no fill closes a lot of another
  sleeve**.
-/

namespace Aats.Portfolio

/-! ### The two ways -/

section Inventory

/- The `strategy_sleeve_id` of a fill, by the id of the fill.  A lot has that of its source fill. -/
variable (strategySleeveId : String → Option String)

/-- `_quantity_from_lots` of the rows that `lots_for_scope` finds. -/
def quantityFromLots (rows : List PositionLot) (sleeveId : String) : ℚ :=
  ((rows.filter fun row => (strategySleeveId row.sourceFillId).getD "" = sleeveId).map
    PositionLot.quantity).sum

/-- The fills of a scope, by the test of `_quantity_from_fills`. -/
def scopeFills (scope : LotScope) (fills : List FillRecord) : List FillRecord :=
  fills.filter fun fill => fill.symbol.toUpper = scope.symbol ∧
    fill.productType = scope.productType ∧ fill.marginMode = scope.marginMode

/-- The open rows of a scope in a store that has what one rebuild gives for its fills. -/
def lotsForScope (scope : LotScope) (fills : List FillRecord) : List PositionLot :=
  openLots (rebuildLotBook (scopeFills scope fills))

/-- `snapshot.positions.values()`. -/
def positions (book : LotBook) : List PositionRecord :=
  book.lots.entries.filterMap fun entry => book.positionOf entry.1

def quantityFromFills (fills : List FillRecord) (sleeveId : String) (scope : LotScope) : ℚ :=
  let own := fills.filter fun fill =>
    (strategySleeveId fill.fillId).getD "" = sleeveId ∧ fill.symbol.toUpper = scope.symbol ∧
      fill.productType = scope.productType ∧ fill.marginMode = scope.marginMode
  if own = [] then 0
  else (((positions (rebuildLotBook own)).filter fun position =>
    position.symbol.toUpper = scope.symbol).map PositionRecord.quantity).sum

def sleeveLabels : Labels String where
  ofFill := fun fill => (strategySleeveId fill.fillId).getD ""
  ofLot := fun lot => (strategySleeveId lot.sourceFillId).getD ""
  ofLot_newLot := fun _ _ => rfl
  ofLot_resize := fun _ _ => rfl

end Inventory

def symbolLabels : Labels String where
  ofFill := fun fill => fill.symbol
  ofLot := fun lot => lot.symbol
  ofLot_newLot := fun _ _ => rfl
  ofLot_resize := fun _ _ => rfl

variable {strategySleeveId : String → Option String} {fill : FillRecord}
  {fills lotsFills : List FillRecord} {scope : LotScope} {lots others : List PositionLot}
  {book : LotBook} {key : String}

/-! ### Positions and their lots -/

theorem lotQuantity_append (lots others : List PositionLot) :
    lotQuantity (lots ++ others) = lotQuantity lots + lotQuantity others := by
  rw [lotQuantity, List.map_append, List.sum_append]
  rfl

theorem DirectedTo.lt_lotQuantity {side : ℚ} (h : DirectedTo side lots) (hne : lots ≠ []) :
    epsilon12 < side * lotQuantity lots := by
  induction lots with
  | nil => exact absurd rfl hne
  | cons lot lots ih =>
    have hlot := h.lots lot List.mem_cons_self
    rw [lotQuantity_cons, mul_add]
    by_cases hnil : lots = []
    · rw [hnil, lotQuantity_nil, mul_zero, add_zero]
      exact hlot
    · have hrest := epsilon12_pos.trans (ih h.tail hnil)
      linarith

theorem positionOf_cases (hdirected : Directed (book.lotsOf key)) :
    (book.lotsOf key = [] ∧ book.positionOf key = none) ∨
    ∃ last ∈ book.lotsOf key, ∃ position, book.positionOf key = some position ∧
      position.symbol = last.symbol ∧ position.quantity = lotQuantity (book.lotsOf key) := by
  unfold LotBook.positionOf
  cases hlast : (book.lotsOf key).getLast? with
  | none => exact .inl ⟨List.getLast?_eq_none_iff.mp hlast, rfl⟩
  | some last =>
    have hmem := List.mem_of_getLast? hlast
    obtain ⟨side, hside⟩ := hdirected
    have htotal : isEffectivelyZero (lotQuantity (book.lotsOf key)) = false :=
      isEffectivelyZero_eq_false.mpr
        (lt_abs_of_unit hside.unit (hside.lt_lotQuantity (List.ne_nil_of_mem hmem)))
    refine .inr ⟨last, hmem, ?_⟩
    rw [lotQuantity] at htotal
    simp only [htotal]
    exact ⟨_, rfl, rfl, rfl⟩

theorem sum_positions (hdirected : ∀ key, Directed (book.lotsOf key)) {symbol : String}
    (hsymbol : ∀ key, ∀ lot ∈ book.lotsOf key, lot.symbol.toUpper = symbol) :
    (((positions book).filter fun position => position.symbol.toUpper = symbol).map
      PositionRecord.quantity).sum = lotQuantity (openLots book) := by
  have hentries : ∀ entry ∈ book.lots.entries, book.lotsOf entry.1 = entry.2 := by
    intro entry hmem
    rw [LotBook.lotsOf, AList.mem_lookup_iff.mpr hmem, Option.getD_some]
  unfold positions openLots
  revert hentries
  generalize book.lots.entries = entries
  intro hentries
  induction entries with
  | nil => rfl
  | cons entry entries ih =>
    have hlots := hentries entry List.mem_cons_self
    have hrest := ih fun other hmem => hentries other (List.mem_cons_of_mem _ hmem)
    rw [List.flatMap_cons, lotQuantity_append, ← hrest, ← hlots]
    rcases positionOf_cases (hdirected entry.1) with
      ⟨hnil, hnone⟩ | ⟨last, hlast, position, hsome, hlastSymbol, hquantity⟩
    · rw [List.filterMap_cons, hnone, hnil, lotQuantity_nil, zero_add]
    · rw [List.filterMap_cons, hsome, List.filter_cons_of_pos, List.map_cons, List.sum_cons,
        hquantity]
      rw [decide_eq_true_iff, hlastSymbol]
      exact hsymbol entry.1 last hlast

theorem filter_sleeve_scope (sleeveId : String) :
    (fills.filter fun fill =>
      (strategySleeveId fill.fillId).getD "" = sleeveId ∧ fill.symbol.toUpper = scope.symbol ∧
        fill.productType = scope.productType ∧ fill.marginMode = scope.marginMode) =
      (sleeveLabels strategySleeveId).fillsIn sleeveId (scopeFills scope fills) := by
  rw [Labels.fillsIn, scopeFills, List.filter_filter]
  refine List.filter_congr fun fill _ => ?_
  rw [← Bool.decide_and]
  rfl

theorem quantityFromFills_eq (sleeveId : String) :
    quantityFromFills strategySleeveId fills sleeveId scope =
      lotQuantity (openLots (rebuildLotBook
        ((sleeveLabels strategySleeveId).fillsIn sleeveId (scopeFills scope fills)))) := by
  unfold quantityFromFills
  rw [filter_sleeve_scope]
  by_cases hnil : (sleeveLabels strategySleeveId).fillsIn sleeveId (scopeFills scope fills) = []
  · rw [hnil]
    rfl
  · simp only [if_neg hnil]
    refine sum_positions (fun key => directed_foldl_process _ key) ?_
    intro key lot hmem
    obtain ⟨fill, hfill, hlabel, -⟩ := exists_fill_of_mem_lotsOf symbolLabels _ key lot hmem
    have hscope := (List.mem_filter.mp (mem_sortedFills.mp hfill)).1
    have hsymbol : lot.symbol = fill.symbol := hlabel
    rw [hsymbol]
    exact (of_decide_eq_true (List.mem_filter.mp hscope).2).1

/-! ### One fill and the inventory -/

theorem openLots_perm_append (hkeyed : book.Keyed) (key : String) :
    (openLots book).Perm
      (book.lotsOf key ++ (openLots book).filter fun lot => lot.positionKey ≠ key) := by
  rw [List.perm_iff_count]
  intro lot
  rw [List.count_append]
  by_cases hkey : lot.positionKey = key
  · rw [List.count_eq_zero_of_not_mem (l := List.filter _ _), Nat.add_zero, count_openLots hkeyed,
      hkey]
    exact fun hmem => of_decide_eq_true (List.mem_filter.mp hmem).2 hkey
  · rw [List.count_eq_zero_of_not_mem (l := book.lotsOf key), Nat.zero_add,
      List.count_filter (p := fun lot : PositionLot => lot.positionKey ≠ key) (decide_eq_true hkey)]
    exact fun hmem => hkey (hkeyed key lot hmem)

variable {L : Type} [DecidableEq L] {labels : Labels L} {m : L}

theorem Labels.quantityIn_perm (labels : Labels L) (m : L) (h : lots.Perm others) :
    labels.quantityIn m lots = labels.quantityIn m others :=
  lotQuantity_perm (h.filter _)

theorem Labels.quantityIn_append (labels : Labels L) (m : L) (lots others : List PositionLot) :
    labels.quantityIn m (lots ++ others) = labels.quantityIn m lots + labels.quantityIn m others := by
  rw [Labels.quantityIn, Labels.lotsIn, List.filter_append, lotQuantity_append]
  rfl

theorem quantityIn_openLots_process (labels : Labels L) (m : L) (hkeyed : book.Keyed)
    (fill : FillRecord) :
    labels.quantityIn m (openLots (book.process fill)) - labels.quantityIn m (openLots book) =
      labels.quantityIn m ((book.process fill).lotsOf (positionKeyForFill fill.toFillEvent)) -
        labels.quantityIn m (book.lotsOf (positionKeyForFill fill.toFillEvent)) := by
  have hkeyed' := LotBook.keyed_process hkeyed fill
  have hothers : ((openLots (book.process fill)).filter fun lot =>
      lot.positionKey ≠ positionKeyForFill fill.toFillEvent).Perm
      ((openLots book).filter fun lot =>
        lot.positionKey ≠ positionKeyForFill fill.toFillEvent) := by
    rw [List.perm_iff_count]
    intro lot
    by_cases hkey : lot.positionKey = positionKeyForFill fill.toFillEvent
    · rw [List.count_eq_zero_of_not_mem, List.count_eq_zero_of_not_mem]
      · exact fun hmem => of_decide_eq_true (List.mem_filter.mp hmem).2 hkey
      · exact fun hmem => of_decide_eq_true (List.mem_filter.mp hmem).2 hkey
    · rw [List.count_filter (by simpa using hkey), List.count_filter (by simpa using hkey),
        count_openLots hkeyed', count_openLots hkeyed,
        (LotBook.sameUnder_process hkeyed (Ne.symm hkey)).1]
  rw [labels.quantityIn_perm m (openLots_perm_append hkeyed' (positionKeyForFill fill.toFillEvent)),
    labels.quantityIn_perm m (openLots_perm_append hkeyed (positionKeyForFill fill.toFillEvent)),
    Labels.quantityIn_append, Labels.quantityIn_append, labels.quantityIn_perm m hothers]
  ring

theorem quantityIn_of_splitBy (hsplit : SplitBy labels fills) (m : L) :
    labels.quantityIn m (openLots (bookOf fills)) =
      lotQuantity (openLots (bookOf (labels.fillsIn m fills))) := by
  refine lotQuantity_perm ((openLots_perm_iff (keyed_foldl_process _)).mpr fun lot => ?_)
  rw [← hsplit m lot.positionKey]
  by_cases hlot : labels.ofLot lot = m
  · subst hlot
    rw [labels.count_lotsIn, labels.count_lotsIn, count_openLots (keyed_foldl_process _)]
  · rw [List.count_eq_zero_of_not_mem, List.count_eq_zero_of_not_mem]
    · exact fun hmem => hlot (of_decide_eq_true (List.mem_filter.mp hmem).2)
    · exact fun hmem => hlot (of_decide_eq_true (List.mem_filter.mp hmem).2)

/-- **After a fill that may close lots of another label, the labels have what their own fills give
exactly if it does not.** -/
theorem quantityIn_concat_iff (hsplit : SplitBy labels fills) :
    (∀ m, labels.quantityIn m (openLots (bookOf (fills ++ [fill]))) =
      lotQuantity (openLots (bookOf (labels.fillsIn m (fills ++ [fill]))))) ↔
    ClosesOwn labels (bookOf fills) fill := by
  constructor
  · intro h
    by_contra hother
    obtain ⟨m, hne, hchanged⟩ := quantityIn_process_ne hother
    have hm := h m
    rw [bookOf_concat, Labels.fillsIn_concat_of_ne hne, ← quantityIn_of_splitBy hsplit] at hm
    have hdelta := quantityIn_openLots_process labels m (keyed_foldl_process fills) fill
    rw [sub_eq_zero.mpr hm] at hdelta
    exact hchanged (sub_eq_zero.mp hdelta.symm)
  · intro hown m
    exact quantityIn_of_splitBy (splitBy_concat hsplit hown) m

/-! ### Main result -/

theorem scopeFills_of_sorted_append {before after : List FillRecord}
    (h : sortedFills (scopeFills scope fills) = before ++ after) :
    scopeFills scope before = before := by
  refine List.filter_eq_self.mpr fun fill hmem => ?_
  have hscope : fill ∈ scopeFills scope fills :=
    mem_sortedFills.mp (h ▸ List.mem_append_left _ hmem)
  exact (List.mem_filter.mp hscope).2

theorem inventory_of_sorted (strategySleeveId : String → Option String)
    (hscope : scopeFills scope fills = fills)
    (h : fills.Pairwise fun a b => fillProcessingSortKey a ≤ fillProcessingSortKey b)
    (sleeveId : String) :
    quantityFromLots strategySleeveId (lotsForScope scope fills) sleeveId =
        (sleeveLabels strategySleeveId).quantityIn sleeveId (openLots (bookOf fills)) ∧
      quantityFromFills strategySleeveId fills sleeveId scope =
        lotQuantity (openLots (bookOf ((sleeveLabels strategySleeveId).fillsIn sleeveId fills))) := by
  constructor
  · rw [lotsForScope, hscope, rebuildLotBook_of_sorted h]
    rfl
  · rw [quantityFromFills_eq, hscope, Labels.fillsIn,
      rebuildLotBook_of_sorted (h.sublist List.filter_sublist)]

theorem rebuildLotBook_sortedFills (fills : List FillRecord) :
    rebuildLotBook (sortedFills fills) = rebuildLotBook fills := by
  rw [rebuildLotBook_of_sorted (pairwise_sortedFills fills)]
  rfl

theorem inventory_sortedFills (sleeveId : String) :
    quantityFromLots strategySleeveId (lotsForScope scope (sortedFills (scopeFills scope fills)))
        sleeveId = quantityFromLots strategySleeveId (lotsForScope scope fills) sleeveId ∧
      quantityFromFills strategySleeveId (sortedFills (scopeFills scope fills)) sleeveId scope =
        quantityFromFills strategySleeveId fills sleeveId scope := by
  have hscope : scopeFills scope (sortedFills (scopeFills scope fills)) =
      sortedFills (scopeFills scope fills) :=
    scopeFills_of_sorted_append (List.append_nil _).symm
  constructor
  · rw [lotsForScope, hscope, rebuildLotBook_sortedFills]
    rfl
  · rw [quantityFromFills_eq, quantityFromFills_eq, hscope, Labels.fillsIn, sortedFills_filter,
      rebuildLotBook_sortedFills]
    rfl

/-- **The stored lots and the fallback agree on all sleeves of a scope after every fill exactly if no
fill closes a lot of another sleeve**, in the order in which the fills are processed. Then they agree
at the end, in whatever order the fills are given. -/
theorem sleeveInventory_iff (strategySleeveId : String → Option String) (fills : List FillRecord)
    (scope : LotScope) :
    ((∀ before fill after, sortedFills (scopeFills scope fills) = before ++ fill :: after →
        ClosesOwn (sleeveLabels strategySleeveId) (rebuildLotBook before) fill) →
      ∀ sleeveId, quantityFromLots strategySleeveId (lotsForScope scope fills) sleeveId =
        quantityFromFills strategySleeveId fills sleeveId scope) ∧
    ((∀ before after, sortedFills (scopeFills scope fills) = before ++ after →
        ∀ sleeveId, quantityFromLots strategySleeveId (lotsForScope scope before) sleeveId =
          quantityFromFills strategySleeveId before sleeveId scope) ↔
      ∀ before fill after, sortedFills (scopeFills scope fills) = before ++ fill :: after →
        ClosesOwn (sleeveLabels strategySleeveId) (rebuildLotBook before) fill) := by
  have hsorted := pairwise_sortedFills (scopeFills scope fills)
  have hordered : ∀ before after, sortedFills (scopeFills scope fills) = before ++ after →
      before.Pairwise fun a b => fillProcessingSortKey a ≤ fillProcessingSortKey b :=
    fun before after heq => (List.pairwise_append.mp (heq ▸ hsorted)).1
  have hiff : (∀ before after, sortedFills (scopeFills scope fills) = before ++ after →
      ∀ sleeveId, quantityFromLots strategySleeveId (lotsForScope scope before) sleeveId =
        quantityFromFills strategySleeveId before sleeveId scope) ↔
      ∀ before fill after, sortedFills (scopeFills scope fills) = before ++ fill :: after →
        ClosesOwn (sleeveLabels strategySleeveId) (rebuildLotBook before) fill := by
    refine Runs.forall_prefix_iff (I := SplitBy (sleeveLabels strategySleeveId)) (fun _ _ => rfl)
      (fun _ => rfl) ?_ ?_
    · intro before fill after heq hsplit hown
      rw [rebuildLotBook_of_sorted (hordered before _ heq)] at hown
      exact splitBy_concat hsplit hown
    · intro before fill after heq hsplit
      have hnext : sortedFills (scopeFills scope fills) = (before ++ [fill]) ++ after := by
        simpa using heq
      have hboth := inventory_of_sorted strategySleeveId (scopeFills_of_sorted_append hnext)
        (hordered _ after hnext)
      rw [rebuildLotBook_of_sorted (hordered before _ heq), ← quantityIn_concat_iff hsplit]
      exact forall_congr' fun sleeveId => by rw [(hboth sleeveId).1, (hboth sleeveId).2]
  refine ⟨fun hown sleeveId => ?_, hiff⟩
  have hend := hiff.mpr hown _ [] (List.append_nil _).symm sleeveId
  rwa [(inventory_sortedFills sleeveId).1, (inventory_sortedFills sleeveId).2] at hend

/-- Sleeve A buys a swap, and sleeve B sells as much of it. -/
def boughtAndSold : List FillRecord :=
  let bought : FillRecord :=
    { fillId := "f1", symbol := "BTC-USDT-SWAP", side := .buy, fillQty := 1, fillPrice := 100,
      feeAmount := 0, productType := .derivatives, marginMode := .cross, exchangeTimestamp := 1,
      ingestionTimestamp := 1 }
  [bought, { bought with fillId := "f2", side := .sell, exchangeTimestamp := 2 }]

/-- **The sale closes the lot of the other sleeve**: both have nothing by their lots, and one contract
long and one short by their fills. -/
theorem sleeveInventory_ne_boughtAndSold :
    ¬ ∀ (strategySleeveId : String → Option String) (fills : List FillRecord) (scope : LotScope)
      (sleeveId : String), (fills.map (·.fillId)).Nodup →
      quantityFromLots strategySleeveId (lotsForScope scope fills) sleeveId =
        quantityFromFills strategySleeveId fills sleeveId scope := by
  intro h
  have heq := h (fun id => if id = "f1" then some "A" else some "B") boughtAndSold
    { symbol := "BTC-USDT-SWAP", productType := .derivatives, marginMode := .cross } "A"
    (by decide +kernel)
  revert heq
  decide +kernel

end Aats.Portfolio
