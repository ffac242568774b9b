import Aats.Lib.Dict
import Aats.Lib.Grouping
import Aats.Lib.Runs
import Aats.Portfolio.LotLabels

/-!
# The persistent lot book

`services/ledger/persistent_lot_book.py` over `storage/lot_repo_postgres.py`: the fills are grouped
by symbol, product type and margin mode, each group is matched on its own, and the open lots of the
group replace the rows of that scope. The matcher itself groups by the position key, which for
derivatives does not have the margin mode, so what one rebuild over all fills nets against each
other may be matched apart in the store.

## Main results
* `storedLots_perm_iff` — **the store has the lots of one rebuild after every fill exactly if no fill
  closes a lot of another scope**.
-/

namespace Aats.Portfolio

/-! ### The open lots of a book -/

def openLots (book : LotBook) : List PositionLot := book.lots.entries.flatMap Sigma.snd

theorem count_openLots {book : LotBook} (hkeyed : book.Keyed) (lot : PositionLot) :
    (openLots book).count lot = (book.lotsOf lot.positionKey).count lot := by
  rw [openLots, List.count_flatMap]
  refine (Dict.sum_entries book.lots (fun _ lots => List.count lot lots) {lot.positionKey}
    (fun key lots hlookup hne => ?_)).trans ?_
  · have hlots : book.lotsOf key = lots := by rw [LotBook.lotsOf, hlookup, Option.getD_some]
    rw [Finset.mem_singleton, ← hkeyed key lot (hlots ▸ List.count_pos_iff.mp (by omega))]
  · rw [Finset.sum_singleton, LotBook.lotsOf]
    cases book.lots.lookup lot.positionKey with
    | none => rfl
    | some lots => rfl

theorem openLots_perm_iff {book : LotBook} (hkeyed : book.Keyed) {rows : List PositionLot} :
    rows.Perm (openLots book) ↔
      ∀ lot, rows.count lot = (book.lotsOf lot.positionKey).count lot := by
  rw [List.perm_iff_count]
  exact forall_congr' fun lot => by rw [count_openLots hkeyed]

variable {L : Type} [DecidableEq L] {labels : Labels L} {l : L} {fill : FillRecord}
  {fills : List FillRecord}

theorem closeLots_forall {p : PositionLot → Prop}
    (hresize : ∀ lot quantity, p lot → p { lot with quantity := quantity })
    {lots : List PositionLot} (h : ∀ lot ∈ lots, p lot) (remaining : ℚ) :
    ∀ lot ∈ (closeLots fill lots remaining).lots, p lot := by
  induction lots generalizing remaining with
  | nil => exact h
  | cons lot lots ih =>
    have htail : ∀ other ∈ lots, p other := fun other hmem => h other (List.mem_cons_of_mem _ hmem)
    rcases loop_cases lot.quantity remaining with hsame | ⟨hopposite, hupdated, hleft⟩ |
      ⟨hopposite, hupdated, hleft⟩ | ⟨hopposite, hupdated⟩
    · rw [closeLots_same fill lots hsame]
      exact h
    · rw [closeLots_last hopposite fill lots hupdated hleft]
      exact htail
    · rw [closeLots_next hopposite fill lots hupdated hleft]
      exact ih htail _
    · rw [closeLots_shrunk hopposite fill lots hupdated]
      intro other hmem
      rcases List.mem_cons.mp hmem with rfl | hmem
      · exact hresize lot _ (h lot List.mem_cons_self)
      · exact htail other hmem

omit [DecidableEq L] in
theorem exists_fill_of_mem_lotsOf (labels : Labels L) (fills : List FillRecord) (key : String) :
    ∀ lot ∈ (bookOf fills).lotsOf key, ∃ fill ∈ fills, labels.ofLot lot = labels.ofFill fill ∧
      positionKeyForFill fill.toFillEvent = key := by
  induction fills using List.reverseRecOn with
  | nil => exact fun lot hmem => absurd hmem List.not_mem_nil
  | append_singleton fills fill ih =>
    have hold : ∀ lot ∈ (bookOf fills).lotsOf key, ∃ other ∈ fills ++ [fill],
        labels.ofLot lot = labels.ofFill other ∧ positionKeyForFill other.toFillEvent = key := by
      intro lot hmem
      obtain ⟨other, hother, hlabel⟩ := ih lot hmem
      exact ⟨other, List.mem_append_left _ hother, hlabel⟩
    rw [bookOf_concat]
    by_cases hskipped : isEffectivelyZero fill.fillQty = true ∨ isQuarantined fill = true
    · rwa [lotsOf_process_of_skipped hskipped]
    · rw [not_or, Bool.not_eq_true, Bool.not_eq_true] at hskipped
      obtain ⟨hzero, haccepted⟩ := hskipped
      have hkeyed := keyed_foldl_process fills
      by_cases hkey : positionKeyForFill fill.toFillEvent = key
      · rw [← hkey, (LotBook.process_own hkeyed hzero haccepted).1]
        rw [← hkey] at hold
        have hclosed : ∀ lot ∈ (closeLots fill _ (signedQty fill.toFillEvent)).lots, _ :=
          closeLots_forall (fun lot quantity h => by rwa [labels.ofLot_resize]) hold _
        unfold matchLots
        simp only
        split
        next => exact hclosed
        next =>
          intro lot hmem
          rcases List.mem_append.mp hmem with hmem | hmem
          · exact hclosed lot hmem
          · rw [List.mem_singleton.mp hmem, labels.ofLot_newLot]
            exact ⟨fill, List.mem_append_right _ (List.mem_singleton_self _), rfl, rfl⟩
      · rw [(LotBook.sameUnder_process hkeyed hkey).1]
        exact hold

theorem Labels.count_lotsIn (labels : Labels L) (lots : List PositionLot) (row : PositionLot) :
    (labels.lotsIn (labels.ofLot row) lots).count row = lots.count row :=
  List.count_filter (p := fun lot => labels.ofLot lot = labels.ofLot row) (decide_eq_true rfl)

theorem forall_count_iff_perm (labels : Labels L) (fills : List FillRecord) :
    (∀ row : PositionLot,
      ((bookOf (labels.fillsIn (labels.ofLot row) fills)).lotsOf row.positionKey).count row =
        ((bookOf fills).lotsOf row.positionKey).count row) ↔
    ∀ l key, (labels.lotsIn l ((bookOf fills).lotsOf key)).Perm
      ((bookOf (labels.fillsIn l fills)).lotsOf key) := by
  constructor
  · intro h l key
    rw [List.perm_iff_count]
    intro row
    by_cases hrow : labels.ofLot row = l ∧ row.positionKey = key
    · obtain ⟨rfl, rfl⟩ := hrow
      rw [labels.count_lotsIn, h row]
    · have hleft : row ∉ labels.lotsIn l ((bookOf fills).lotsOf key) := by
        intro hmem
        obtain ⟨hmem, hlabel⟩ := List.mem_filter.mp hmem
        exact hrow ⟨of_decide_eq_true hlabel, keyed_foldl_process fills key row hmem⟩
      have hright : row ∉ (bookOf (labels.fillsIn l fills)).lotsOf key := by
        intro hmem
        obtain ⟨fill, hfill, hlabel, -⟩ := exists_fill_of_mem_lotsOf labels _ key row hmem
        rw [of_decide_eq_true (List.mem_filter.mp hfill).2] at hlabel
        exact hrow ⟨hlabel, keyed_foldl_process _ key row hmem⟩
      rw [List.count_eq_zero_of_not_mem hleft, List.count_eq_zero_of_not_mem hright]
  · intro h row
    rw [← (h (labels.ofLot row) row.positionKey).count_eq, labels.count_lotsIn]

theorem lotQuantity_perm {lots others : List PositionLot} (h : lots.Perm others) :
    lotQuantity lots = lotQuantity others :=
  (h.map PositionLot.quantity).sum_eq

theorem perm_concat_iff {fills : List FillRecord} (hsplit : SplitBy labels fills) :
    (∀ l key, (labels.lotsIn l ((bookOf (fills ++ [fill])).lotsOf key)).Perm
      ((bookOf (labels.fillsIn l (fills ++ [fill]))).lotsOf key)) ↔
    ClosesOwn labels (bookOf fills) fill := by
  constructor
  · intro h
    by_contra hother
    obtain ⟨m, hne, hchanged⟩ := quantityIn_process_ne hother
    have hperm := h m (positionKeyForFill fill.toFillEvent)
    rw [bookOf_concat, Labels.fillsIn_concat_of_ne hne, ← hsplit] at hperm
    exact hchanged (lotQuantity_perm hperm)
  · intro hown l key
    rw [splitBy_concat hsplit hown l key]

/-! ### The store -/

structure LotScope where
  symbol : String
  productType : ProductType
  marginMode : MarginMode
  deriving DecidableEq

/-- The scope that `_replace_lot_scopes` puts a fill in. -/
def scopeOfFill (fill : FillRecord) : LotScope :=
  { symbol := fill.symbol, productType := fill.productType, marginMode := fill.marginMode }

def scopeOfRow (row : PositionLot) : LotScope :=
  { symbol := row.symbol, productType := row.productType, marginMode := row.marginMode }

/-- `replace_scope_in_session`: the rows of the scope are deleted, and the lots are added with its
columns. -/
def replaceScope (rows : List PositionLot) (scope : LotScope) (lots : List PositionLot) :
    List PositionLot :=
  rows.filter (fun row => scopeOfRow row ≠ scope) ++
    lots.map fun lot =>
      { lot with
        symbol := scope.symbol
        productType := scope.productType
        marginMode := scope.marginMode }

/-- `rebuild_from_fills`, as far as open lots go. -/
def rebuildFromFills (rows : List PositionLot) (fills : List FillRecord) : List PositionLot :=
  (Grouping.groupBy scopeOfFill (sortedFills fills)).foldl
    (fun rows group => replaceScope rows group.1 (openLots (rebuildLotBook group.2))) rows

def scopeLabels : Labels LotScope where
  ofFill := scopeOfFill
  ofLot := scopeOfRow
  ofLot_newLot := fun _ _ => rfl
  ofLot_resize := fun _ _ => rfl

variable {rows : List PositionLot} {scope : LotScope} {row : PositionLot}

theorem count_replaceScope (rows : List PositionLot) (row : PositionLot) {lots : List PositionLot}
    (hlots : ∀ lot ∈ lots, scopeOfRow lot = scope) :
    (replaceScope rows scope lots).count row =
      if scopeOfRow row = scope then lots.count row else rows.count row := by
  have hcolumns : lots.map (fun lot => { lot with
      symbol := scope.symbol
      productType := scope.productType
      marginMode := scope.marginMode }) = lots := by
    refine (List.map_congr_left fun lot hmem => ?_).trans (List.map_id lots)
    rw [← hlots lot hmem]
    rfl
  rw [replaceScope, hcolumns, List.count_append]
  split
  next h =>
    rw [List.count_eq_zero_of_not_mem, Nat.zero_add]
    exact fun hmem => absurd h (of_decide_eq_true (List.mem_filter.mp hmem).2)
  next h =>
    rw [List.count_filter (p := fun row => scopeOfRow row ≠ scope) (decide_eq_true h),
      List.count_eq_zero_of_not_mem (l := lots), Nat.add_zero]
    exact fun hmem => h (hlots row hmem)

theorem rebuildLotBook_of_sorted
    (h : fills.Pairwise fun a b => fillProcessingSortKey a ≤ fillProcessingSortKey b) :
    rebuildLotBook fills = bookOf fills := by
  rw [rebuildLotBook, sortedFills, List.Pairwise.insertionSort_eq h]

theorem scopeOfRow_of_mem_openLots {group : List FillRecord}
    (hgroup : ∀ fill ∈ group, scopeOfFill fill = scope) :
    ∀ lot ∈ openLots (bookOf group), scopeOfRow lot = scope := by
  intro lot hmem
  have hmem' : lot ∈ (bookOf group).lotsOf lot.positionKey := by
    rw [← List.count_pos_iff, ← count_openLots (keyed_foldl_process group)]
    exact List.count_pos_iff.mpr hmem
  obtain ⟨fill, hfill, hlabel, -⟩ := exists_fill_of_mem_lotsOf scopeLabels group _ lot hmem'
  exact hlabel.trans (hgroup fill hfill)

theorem count_foldl_replaceScope (rows : List PositionLot) (row : PositionLot)
    {groups : List (LotScope × List FillRecord)} (hkeys : (groups.map Prod.fst).Nodup)
    (hgroups : ∀ group ∈ groups, ∀ fill ∈ group.2, scopeOfFill fill = group.1)
    (hsorted : ∀ group ∈ groups, rebuildLotBook group.2 = bookOf group.2) :
    ((groups.foldl (fun rows group => replaceScope rows group.1 (openLots (rebuildLotBook group.2)))
      rows).count row = rows.count row ∧ scopeOfRow row ∉ groups.map Prod.fst) ∨
    ∃ group, (scopeOfRow row, group) ∈ groups ∧
      (groups.foldl (fun rows group => replaceScope rows group.1
        (openLots (rebuildLotBook group.2))) rows).count row = (openLots (bookOf group)).count row := by
  induction groups generalizing rows with
  | nil => exact .inl ⟨rfl, List.not_mem_nil⟩
  | cons group groups ih =>
    rw [List.map_cons, List.nodup_cons] at hkeys
    have hfirst := count_replaceScope rows row
      (scopeOfRow_of_mem_openLots (hgroups group List.mem_cons_self))
    rw [List.foldl_cons, hsorted group List.mem_cons_self]
    rcases ih (replaceScope rows group.1 (openLots (bookOf group.2))) hkeys.2
      (fun other hmem => hgroups other (List.mem_cons_of_mem _ hmem))
      (fun other hmem => hsorted other (List.mem_cons_of_mem _ hmem)) with
      ⟨hcount, hno⟩ | ⟨other, hmem, hcount⟩
    · rw [hcount, hfirst]
      split
      next h => exact .inr ⟨group.2, by rw [h]; exact List.mem_cons_self, rfl⟩
      next h =>
        refine .inl ⟨rfl, ?_⟩
        rw [List.map_cons, List.mem_cons, not_or]
        exact ⟨h, hno⟩
    · exact .inr ⟨other, List.mem_cons_of_mem _ hmem, hcount⟩

theorem sortedFills_of_sorted
    (h : fills.Pairwise fun a b => fillProcessingSortKey a ≤ fillProcessingSortKey b) :
    sortedFills fills = fills :=
  List.Pairwise.insertionSort_eq h

theorem count_rebuildFromFills
    (h : fills.Pairwise fun a b => fillProcessingSortKey a ≤ fillProcessingSortKey b) :
    (rebuildFromFills [] fills).count row =
      ((bookOf (scopeLabels.fillsIn (scopeOfRow row) fills)).lotsOf row.positionKey).count row := by
  have hgroups : ∀ scope group, (scope, group) ∈ Grouping.groupBy scopeOfFill fills →
      group = scopeLabels.fillsIn scope fills :=
    fun scope group hmem => (Grouping.mem_groupBy.mp hmem).1
  rw [rebuildFromFills, sortedFills_of_sorted h]
  rcases count_foldl_replaceScope [] row
    (Grouping.nodup_keys_groupBy scopeOfFill fills)
    (fun group hmem fill hfill => by
      rw [hgroups group.1 group.2 hmem] at hfill
      exact of_decide_eq_true (List.mem_filter.mp hfill).2)
    (fun group hmem => by
      rw [hgroups group.1 group.2 hmem]
      exact rebuildLotBook_of_sorted (h.sublist List.filter_sublist)) with
    ⟨hcount, hno⟩ | ⟨group, hmem, hcount⟩
  · -- no fill has the scope of the row
    have hnone : scopeLabels.fillsIn (scopeOfRow row) fills = [] := by
      refine List.filter_eq_nil_iff.mpr fun fill hmem hscope => hno ?_
      exact Grouping.mem_keys_groupBy.mpr ⟨fill, hmem, of_decide_eq_true hscope⟩
    rw [hcount, hnone]
    rfl
  · rw [hcount, hgroups _ group hmem, count_openLots (keyed_foldl_process _)]

theorem rebuildFromFills_perm_iff
    (h : fills.Pairwise fun a b => fillProcessingSortKey a ≤ fillProcessingSortKey b) :
    (rebuildFromFills [] fills).Perm (openLots (rebuildLotBook fills)) ↔
      ∀ l key, (scopeLabels.lotsIn l ((bookOf fills).lotsOf key)).Perm
        ((bookOf (scopeLabels.fillsIn l fills)).lotsOf key) := by
  rw [rebuildLotBook_of_sorted h, openLots_perm_iff (keyed_foldl_process fills),
    ← forall_count_iff_perm]
  exact forall_congr' fun row => by rw [count_rebuildFromFills h]; rfl

/-! ### Main result -/

/-- **The store has the lots of one rebuild after every fill exactly if no fill closes a lot of
another scope**, in the order in which the fills are processed. Then it has them at the end,
in whatever order the fills are given. -/
theorem storedLots_perm_iff (fills : List FillRecord) :
    ((∀ before fill after, sortedFills fills = before ++ fill :: after →
        ClosesOwn scopeLabels (rebuildLotBook before) fill) →
      (rebuildFromFills [] fills).Perm (openLots (rebuildLotBook fills))) ∧
    ((∀ before after, sortedFills fills = before ++ after →
        (rebuildFromFills [] before).Perm (openLots (rebuildLotBook before))) ↔
      ∀ before fill after, sortedFills fills = before ++ fill :: after →
        ClosesOwn scopeLabels (rebuildLotBook before) fill) := by
  have hsorted := pairwise_sortedFills fills
  have hordered : ∀ before after, sortedFills fills = before ++ after →
      before.Pairwise fun a b => fillProcessingSortKey a ≤ fillProcessingSortKey b :=
    fun before after heq => (List.pairwise_append.mp (heq ▸ hsorted)).1
  have hiff : (∀ before after, sortedFills fills = before ++ after →
      (rebuildFromFills [] before).Perm (openLots (rebuildLotBook before))) ↔
      ∀ before fill after, sortedFills fills = before ++ fill :: after →
        ClosesOwn scopeLabels (rebuildLotBook before) fill := by
    refine Runs.forall_prefix_iff (I := SplitBy scopeLabels) (fun _ _ => rfl) (List.Perm.refl _)
      ?_ ?_
    · intro before fill after heq hsplit hown
      rw [rebuildLotBook_of_sorted (hordered before _ heq)] at hown
      exact splitBy_concat hsplit hown
    · intro before fill after heq hsplit
      have hnext : (before ++ [fill]).Pairwise
          fun a b => fillProcessingSortKey a ≤ fillProcessingSortKey b :=
        hordered (before ++ [fill]) after (by simpa using heq)
      rw [rebuildFromFills_perm_iff hnext, perm_concat_iff hsplit,
        rebuildLotBook_of_sorted (hordered before _ heq)]
  refine ⟨fun hown => ?_, hiff⟩
  -- both sides only look at the fills in their order
  have hend := hiff.mpr hown (sortedFills fills) [] (List.append_nil _).symm
  have hsame : sortedFills (sortedFills fills) = sortedFills fills := sortedFills_of_sorted hsorted
  have hstore : rebuildFromFills [] (sortedFills fills) = rebuildFromFills [] fills := by
    rw [rebuildFromFills, hsame]
    rfl
  have hbook : rebuildLotBook (sortedFills fills) = rebuildLotBook fills := by
    rw [rebuildLotBook, hsame]
    rfl
  rwa [hstore, hbook] at hend

/-- A swap is bought on cross margin, and as many contracts are sold on isolated margin. -/
def crossThenIsolated : List FillRecord :=
  let bought : FillRecord :=
    { fillId := "f1", symbol := "BTC-USDT-SWAP", side := .buy, fillQty := 1, fillPrice := 100,
      feeAmount := 0, productType := .derivatives, marginMode := .cross, exchangeTimestamp := 1,
      ingestionTimestamp := 1 }
  [bought,
    { bought with fillId := "f2", side := .sell, marginMode := .isolated, exchangeTimestamp := 2 }]

/-- **The position key of a swap does not have the margin mode**: one rebuild closes the cross lot
with the isolated sale, and the store has an open lot in each scope. -/
theorem storedLots_not_perm_crossThenIsolated :
    ¬ ∀ fills : List FillRecord, (fills.map (·.fillId)).Nodup →
      (rebuildFromFills [] fills).Perm (openLots (rebuildLotBook fills)) := by
  intro h
  have hperm := h crossThenIsolated (by decide +kernel)
  have hstore : ((rebuildFromFills [] crossThenIsolated).map fun row =>
      (row.marginMode, row.quantity)) = [(.cross, 1), (.isolated, -1)] := by decide +kernel
  have hbook : openLots (rebuildLotBook crossThenIsolated) = [] := by decide +kernel
  rw [hbook, List.perm_nil] at hperm
  rw [hperm] at hstore
  cases hstore

end Aats.Portfolio
