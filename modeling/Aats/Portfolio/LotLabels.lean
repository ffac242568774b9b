import Aats.Portfolio.LotKeys

/-!
# The lot book and its parts

A label sorts fills and the lots they open, for instance by the account scope or by the strategy
sleeve of a fill. The book of all fills is put together from the books of the labels as long as no
fill closes a lot of another label, and it stops being so at the first fill that does. None of this
needs quantities on a grid.

## Main definitions
* `Directed` — the lots of a key all point in one direction, each by more than the tolerance.
* `touchedLots` — the lots that the loop of `rebuild_lot_book` closes from.
* `SplitBy` — the book of some fills is put together from the books of the labels.

## Main results
* `splitBy_concat` — **a fill that closes its own lots keeps the book together**.
* `quantityIn_process_ne` — **a fill that closes another lot changes what the other label has**.
-/

namespace Aats.Portfolio

variable {fill : FillRecord} {lots : List PositionLot} {remaining side : ℚ}

/-! ### Directions without a grid -/

theorem isEffectivelyZero_eq_false {x : ℚ} : isEffectivelyZero x = false ↔ epsilon12 < |x| := by
  rw [isEffectivelyZero, decide_eq_false_iff_not, not_le]

theorem sameDirection_eq_true {x y : ℚ} (hx : epsilon12 < |x|) (hy : epsilon12 < |y|) :
    sameDirection x y = true ↔ (0 < x ∧ 0 < y) ∨ (x < 0 ∧ y < 0) := by
  rw [sameDirection, if_neg (by rw [not_or, not_le, not_le]; exact ⟨hx, hy⟩), decide_eq_true_iff]

theorem opposite_of_sameDirection_eq_false {x y : ℚ} (h : sameDirection x y = false) :
    (epsilon12 < |x| ∧ epsilon12 < |y|) ∧ ((0 < x ∧ y < 0) ∨ (x < 0 ∧ 0 < y)) := by
  unfold sameDirection at h
  split at h
  next => cases h
  next hnear =>
    rw [not_or, not_le, not_le] at hnear
    rw [decide_eq_false_iff_not] at h
    have hx : x ≠ 0 := fun h0 => by
      rw [h0, abs_zero] at hnear
      exact absurd hnear.1 (not_lt.mpr epsilon12_pos.le)
    have hy : y ≠ 0 := fun h0 => by
      rw [h0, abs_zero] at hnear
      exact absurd hnear.2 (not_lt.mpr epsilon12_pos.le)
    refine ⟨hnear, ?_⟩
    rcases lt_or_gt_of_ne hx with hx | hx <;> rcases lt_or_gt_of_ne hy with hy | hy
    · exact absurd (.inr ⟨hx, hy⟩) h
    · exact .inr ⟨hx, hy⟩
    · exact .inl ⟨hx, hy⟩
    · exact absurd (.inl ⟨hx, hy⟩) h

/-! ### The loop, case by case -/

/-- `updated_lot_qty`: the lot after the fill has closed from it. -/
def updatedLotQty (lotQty remaining : ℚ) : ℚ :=
  if 0 < lotQty then lotQty - min |lotQty| |remaining| else lotQty + min |lotQty| |remaining|

/-- `remaining_qty` after the fill has closed from the lot. -/
def leftQty (lotQty remaining : ℚ) : ℚ :=
  if 0 < lotQty then remaining + min |lotQty| |remaining| else remaining - min |lotQty| |remaining|

/-- The lots that the loop of `rebuild_lot_book` closes from. -/
def touchedLots : List PositionLot → ℚ → List PositionLot
  | [], _ => []
  | lot :: lots, remaining =>
    if sameDirection lot.quantity remaining then []
    else if isEffectivelyZero (updatedLotQty lot.quantity remaining) &&
        !isEffectivelyZero (leftQty lot.quantity remaining) then
      lot :: touchedLots lots (leftQty lot.quantity remaining)
    else [lot]

theorem loop_cases (lotQty remaining : ℚ) :
    sameDirection lotQty remaining = true ∨
    (sameDirection lotQty remaining = false ∧
      isEffectivelyZero (updatedLotQty lotQty remaining) = true ∧
      isEffectivelyZero (leftQty lotQty remaining) = true) ∨
    (sameDirection lotQty remaining = false ∧
      isEffectivelyZero (updatedLotQty lotQty remaining) = true ∧
      isEffectivelyZero (leftQty lotQty remaining) = false) ∨
    (sameDirection lotQty remaining = false ∧
      isEffectivelyZero (updatedLotQty lotQty remaining) = false) := by
  cases sameDirection lotQty remaining <;>
    cases isEffectivelyZero (updatedLotQty lotQty remaining) <;>
      cases isEffectivelyZero (leftQty lotQty remaining) <;> simp

section Loop

variable {lot : PositionLot} (hopposite : sameDirection lot.quantity remaining = false)

theorem closeLots_same (fill : FillRecord) (lots : List PositionLot)
    (h : sameDirection lot.quantity remaining = true) :
    closeLots fill (lot :: lots) remaining = { lots := lot :: lots, remaining, events := [] } := by
  rw [closeLots, if_pos h]

theorem touchedLots_same (lots : List PositionLot)
    (h : sameDirection lot.quantity remaining = true) :
    touchedLots (lot :: lots) remaining = [] := by
  rw [touchedLots, if_pos h]

include hopposite

theorem closeLots_last (fill : FillRecord) (lots : List PositionLot)
    (hupdated : isEffectivelyZero (updatedLotQty lot.quantity remaining) = true)
    (hleft : isEffectivelyZero (leftQty lot.quantity remaining) = true) :
    closeLots fill (lot :: lots) remaining =
      { lots, remaining := 0
        events := [closeEvent fill lot (min |lot.quantity| |remaining|)] } := by
  rw [closeLots, if_neg (Bool.eq_false_iff.mp hopposite)]
  exact (if_pos hupdated).trans (if_pos hleft)

theorem closeLots_next (fill : FillRecord) (lots : List PositionLot)
    (hupdated : isEffectivelyZero (updatedLotQty lot.quantity remaining) = true)
    (hleft : isEffectivelyZero (leftQty lot.quantity remaining) = false) :
    closeLots fill (lot :: lots) remaining =
      { closeLots fill lots (leftQty lot.quantity remaining) with
        events := closeEvent fill lot (min |lot.quantity| |remaining|) ::
          (closeLots fill lots (leftQty lot.quantity remaining)).events } := by
  rw [closeLots, if_neg (Bool.eq_false_iff.mp hopposite)]
  exact (if_pos hupdated).trans (if_neg (Bool.eq_false_iff.mp hleft))

theorem closeLots_shrunk (fill : FillRecord) (lots : List PositionLot)
    (hupdated : isEffectivelyZero (updatedLotQty lot.quantity remaining) = false) :
    closeLots fill (lot :: lots) remaining =
      { lots := { lot with quantity := updatedLotQty lot.quantity remaining } :: lots
        remaining := 0
        events := [closeEvent fill lot (min |lot.quantity| |remaining|)] } := by
  rw [closeLots, if_neg (Bool.eq_false_iff.mp hopposite)]
  exact if_neg (Bool.eq_false_iff.mp hupdated)

theorem touchedLots_next (lots : List PositionLot)
    (hupdated : isEffectivelyZero (updatedLotQty lot.quantity remaining) = true)
    (hleft : isEffectivelyZero (leftQty lot.quantity remaining) = false) :
    touchedLots (lot :: lots) remaining =
      lot :: touchedLots lots (leftQty lot.quantity remaining) := by
  rw [touchedLots, if_neg (Bool.eq_false_iff.mp hopposite), hupdated, hleft]
  exact if_pos rfl

theorem touchedLots_last (lots : List PositionLot)
    (h : isEffectivelyZero (updatedLotQty lot.quantity remaining) = false ∨
      isEffectivelyZero (leftQty lot.quantity remaining) = true) :
    touchedLots (lot :: lots) remaining = [lot] := by
  rw [touchedLots, if_neg (Bool.eq_false_iff.mp hopposite), if_neg]
  rcases h with h | h
  · simp [h]
  · simp [h]

theorem mem_touchedLots (lots : List PositionLot) : lot ∈ touchedLots (lot :: lots) remaining := by
  rw [touchedLots, if_neg (Bool.eq_false_iff.mp hopposite)]
  split <;> exact List.mem_cons_self

end Loop

theorem close_cases {lotQty : ℚ} (hside : 0 < side * remaining)
    (h : sameDirection lotQty remaining = false) :
    side * lotQty < 0 ∧
      ((updatedLotQty lotQty remaining = 0 ∧ leftQty lotQty remaining = remaining + lotQty ∧
        0 ≤ side * (remaining + lotQty)) ∨
      (updatedLotQty lotQty remaining = lotQty + remaining ∧ leftQty lotQty remaining = 0 ∧
        side * (lotQty + remaining) < 0)) := by
  unfold updatedLotQty leftQty
  obtain ⟨-, ⟨hlot, hrem⟩ | ⟨hlot, hrem⟩⟩ := opposite_of_sameDirection_eq_false h
  · have hneg : side < 0 := neg_of_mul_pos_left hside hrem.le
    rw [abs_of_pos hlot, abs_of_neg hrem, if_pos hlot, if_pos hlot]
    refine ⟨mul_neg_of_neg_of_pos hneg hlot, ?_⟩
    rcases le_or_gt lotQty (-remaining) with hle | hgt
    · rw [min_eq_left hle]
      exact .inl ⟨sub_self _, rfl, mul_nonneg_of_nonpos_of_nonpos hneg.le (by linarith)⟩
    · rw [min_eq_right hgt.le]
      exact .inr ⟨by ring, by ring, mul_neg_of_neg_of_pos hneg (by linarith)⟩
  · have hpos : 0 < side := pos_of_mul_pos_left hside hrem.le
    rw [abs_of_neg hlot, abs_of_pos hrem, if_neg (not_lt.mpr hlot.le), if_neg (not_lt.mpr hlot.le)]
    refine ⟨mul_neg_of_pos_of_neg hpos hlot, ?_⟩
    rcases le_or_gt (-lotQty) remaining with hle | hgt
    · rw [min_eq_left hle]
      exact .inl ⟨by ring, by ring, mul_nonneg hpos.le (by linarith)⟩
    · rw [min_eq_right hgt.le]
      exact .inr ⟨rfl, sub_self _, mul_neg_of_pos_of_neg hpos (by linarith)⟩

/-! ### Lots of one direction -/

/-- The lots point in the direction `side`, which is one or minus one. -/
structure DirectedTo (side : ℚ) (lots : List PositionLot) : Prop where
  unit : side = 1 ∨ side = -1
  lots : ∀ lot ∈ lots, epsilon12 < side * lot.quantity

def Directed (lots : List PositionLot) : Prop := ∃ side, DirectedTo side lots

theorem abs_of_unit (hunit : side = 1 ∨ side = -1) (x : ℚ) : |side * x| = |x| := by
  rcases hunit with rfl | rfl
  · rw [one_mul]
  · rw [neg_one_mul, abs_neg]

theorem lt_abs_of_unit (hunit : side = 1 ∨ side = -1) {x : ℚ} (h : epsilon12 < side * x) :
    epsilon12 < |x| :=
  abs_of_unit hunit x ▸ h.trans_le (le_abs_self _)

theorem exists_side {x : ℚ} (h : epsilon12 < |x|) :
    ∃ side : ℚ, (side = 1 ∨ side = -1) ∧ epsilon12 < side * x := by
  rcases le_total 0 x with hx | hx
  · exact ⟨1, .inl rfl, by rwa [one_mul, ← abs_of_nonneg hx]⟩
  · exact ⟨-1, .inr rfl, by rwa [neg_one_mul, ← abs_of_nonpos hx]⟩

theorem directedTo_nil (hunit : side = 1 ∨ side = -1) : DirectedTo side [] :=
  ⟨hunit, fun _ hmem => absurd hmem List.not_mem_nil⟩

theorem directed_nil : Directed [] := ⟨1, directedTo_nil (.inl rfl)⟩

theorem DirectedTo.tail {lot : PositionLot} (h : DirectedTo side (lot :: lots)) :
    DirectedTo side lots :=
  ⟨h.unit, fun other hmem => h.lots other (List.mem_cons_of_mem _ hmem)⟩

theorem DirectedTo.cons {lot : PositionLot} (h : DirectedTo side lots)
    (hlot : epsilon12 < side * lot.quantity) : DirectedTo side (lot :: lots) := by
  refine ⟨h.unit, fun other hmem => ?_⟩
  rcases List.mem_cons.mp hmem with rfl | hmem
  · exact hlot
  · exact h.lots other hmem

theorem DirectedTo.concat {lot : PositionLot} (h : DirectedTo side lots)
    (hlot : epsilon12 < side * lot.quantity) : DirectedTo side (lots ++ [lot]) := by
  refine ⟨h.unit, fun other hmem => ?_⟩
  rcases List.mem_append.mp hmem with hmem | hmem
  · exact h.lots other hmem
  · exact List.mem_singleton.mp hmem ▸ hlot

theorem DirectedTo.side_of_same {lot : PositionLot} (h : DirectedTo side (lot :: lots))
    (hrem : epsilon12 < |remaining|) (hsame : sameDirection lot.quantity remaining = true) :
    epsilon12 < side * remaining := by
  have hlot := h.lots lot List.mem_cons_self
  have hlotAbs := lt_abs_of_unit h.unit hlot
  have hpos := epsilon12_pos.trans hlot
  rw [← abs_of_unit h.unit] at hrem
  rcases (sameDirection_eq_true hlotAbs (abs_of_unit h.unit remaining ▸ hrem)).mp hsame with
    ⟨hq, hr⟩ | ⟨hq, hr⟩
  · rwa [abs_of_pos (mul_pos (pos_of_mul_pos_left hpos hq.le) hr)] at hrem
  · rwa [abs_of_pos (mul_pos_of_neg_of_neg (neg_of_mul_pos_left hpos hq.le) hr)] at hrem

theorem closeLots_of_side (hlots : DirectedTo side lots) (hrem : epsilon12 < side * remaining) :
    closeLots fill lots remaining = { lots, remaining, events := [] } := by
  cases lots with
  | nil => rfl
  | cons lot lots =>
    have hlot := hlots.lots lot List.mem_cons_self
    have hsame : sameDirection lot.quantity remaining = true := by
      rw [sameDirection_eq_true (lt_abs_of_unit hlots.unit hlot) (lt_abs_of_unit hlots.unit hrem)]
      have hq := epsilon12_pos.trans hlot
      have hr := epsilon12_pos.trans hrem
      rcases hlots.unit with rfl | rfl
      · exact .inl ⟨by linarith, by linarith⟩
      · exact .inr ⟨by linarith, by linarith⟩
    rw [closeLots, if_pos hsame]

theorem side_updatedLotQty {lotQty : ℚ} (hunit : side = 1 ∨ side = -1)
    (hlot : epsilon12 < side * lotQty) (hopposite : sameDirection lotQty remaining = false)
    (hupdated : isEffectivelyZero (updatedLotQty lotQty remaining) = false) :
    epsilon12 < side * updatedLotQty lotQty remaining := by
  have hsize := isEffectivelyZero_eq_false.mp hupdated
  obtain ⟨-, hsides⟩ := opposite_of_sameDirection_eq_false hopposite
  have hpos := epsilon12_pos.trans hlot
  -- against the fill, the lot is on the side `side`
  have hside : 0 < -side * remaining := by
    rcases hunit with rfl | rfl <;> rcases hsides with ⟨hq, hr⟩ | ⟨hq, hr⟩ <;> linarith
  obtain ⟨-, ⟨hzero, -, -⟩ | ⟨heq, -, hkept⟩⟩ := close_cases hside hopposite
  · rw [hzero, abs_zero] at hsize
    exact absurd hsize (not_lt.mpr epsilon12_pos.le)
  · rw [← abs_of_unit hunit, heq, abs_of_pos (by linarith)] at hsize
    rwa [heq]

theorem directed_closeLots (hlots : Directed lots) (hrem : epsilon12 < |remaining|) :
    ∃ side, DirectedTo side (closeLots fill lots remaining).lots ∧
      (isEffectivelyZero (closeLots fill lots remaining).remaining = true ∨
        epsilon12 < side * (closeLots fill lots remaining).remaining) := by
  induction lots generalizing remaining with
  | nil =>
    obtain ⟨side, hunit, hside⟩ := exists_side hrem
    exact ⟨side, directedTo_nil hunit, .inr hside⟩
  | cons lot lots ih =>
    obtain ⟨side, hdirected⟩ := hlots
    have hlot := hdirected.lots lot List.mem_cons_self
    rcases loop_cases lot.quantity remaining with hsame | ⟨hopposite, hupdated, hleft⟩ |
      ⟨hopposite, hupdated, hleft⟩ | ⟨hopposite, hupdated⟩
    · rw [closeLots_same fill lots hsame]
      exact ⟨side, hdirected, .inr (hdirected.side_of_same hrem hsame)⟩
    · rw [closeLots_last hopposite fill lots hupdated hleft]
      exact ⟨side, hdirected.tail, .inl isEffectivelyZero_zero⟩
    · rw [closeLots_next hopposite fill lots hupdated hleft]
      exact ih ⟨side, hdirected.tail⟩ (isEffectivelyZero_eq_false.mp hleft)
    · rw [closeLots_shrunk hopposite fill lots hupdated]
      exact ⟨side, hdirected.tail.cons (side_updatedLotQty hdirected.unit hlot hopposite hupdated),
        .inl isEffectivelyZero_zero⟩

theorem epsilon12_lt_abs_signedQty (h : isEffectivelyZero fill.fillQty = false) :
    epsilon12 < |signedQty fill.toFillEvent| := by
  rw [isEffectivelyZero_eq_false] at h
  unfold signedQty
  split
  next => exact h
  next => rwa [abs_neg]

theorem directed_matchLots (hlots : Directed lots) (hzero : isEffectivelyZero fill.fillQty = false) :
    Directed (matchLots fill lots).1 := by
  obtain ⟨side, hclosed, hremaining⟩ :=
    directed_closeLots hlots (epsilon12_lt_abs_signedQty hzero)
  unfold matchLots
  extract_lets closed
  split
  next => exact ⟨side, hclosed⟩
  next hopen => exact ⟨side, hclosed.concat (hremaining.resolve_left hopen)⟩

theorem directed_foldl_process (fills : List FillRecord) (key : String) :
    Directed ((fills.foldl LotBook.process {}).lotsOf key) := by
  induction fills using List.reverseRecOn with
  | nil => exact directed_nil
  | append_singleton fills fill ih =>
    rw [List.foldl_append]
    show Directed (((fills.foldl LotBook.process {}).process fill).lotsOf key)
    by_cases hkey : positionKeyForFill fill.toFillEvent = key
    · subst hkey
      rcases (fills.foldl LotBook.process {}).process_cases fill with ⟨-, -, -, hprocess⟩ |
        ⟨-, -, failure, hprocess⟩ | ⟨hzero, haccepted, -⟩
      · rw [hprocess]
        exact ih
      · rw [hprocess]
        exact ih
      · rw [(LotBook.process_own (keyed_foldl_process fills) hzero haccepted).1]
        exact directed_matchLots ih hzero
    · rw [(LotBook.sameUnder_process (keyed_foldl_process fills) hkey).1]
      exact ih

/-! ### Labels -/

/-- A label of fills and of the lots that they open. A lot keeps it when it shrinks. -/
structure Labels (L : Type) where
  ofFill : FillRecord → L
  ofLot : PositionLot → L
  ofLot_newLot : ∀ fill remaining, ofLot (newLot fill remaining) = ofFill fill
  ofLot_resize : ∀ lot quantity, ofLot { lot with quantity := quantity } = ofLot lot

variable {L : Type} [DecidableEq L] (labels : Labels L)

def Labels.lotsIn (l : L) (lots : List PositionLot) : List PositionLot :=
  lots.filter fun lot => labels.ofLot lot = l

def Labels.fillsIn (l : L) (fills : List FillRecord) : List FillRecord :=
  fills.filter fun fill => labels.ofFill fill = l

def Labels.quantityIn (l : L) (lots : List PositionLot) : ℚ := lotQuantity (labels.lotsIn l lots)

abbrev bookOf (fills : List FillRecord) : LotBook := fills.foldl LotBook.process {}

/-- The fill closes no lot of another label: it is skipped, put aside, or all lots that it closes
from are of its own label. -/
def ClosesOwn (book : LotBook) (fill : FillRecord) : Prop :=
  isEffectivelyZero fill.fillQty = false → isQuarantined fill = false →
    ∀ lot ∈ touchedLots (book.lotsOf (positionKeyForFill fill.toFillEvent))
      (signedQty fill.toFillEvent), labels.ofLot lot = labels.ofFill fill

instance decidableClosesOwn (book : LotBook) (fill : FillRecord) :
    Decidable (ClosesOwn labels book fill) :=
  inferInstanceAs (Decidable (_ → _ → _))

/-- The lots of every label in the book of some fills are those of the book of its own fills. -/
def SplitBy (fills : List FillRecord) : Prop :=
  ∀ l key, labels.lotsIn l ((bookOf fills).lotsOf key) =
    (bookOf (labels.fillsIn l fills)).lotsOf key

variable {labels} {l m : L}

theorem Labels.lotsIn_cons_of_eq {lot : PositionLot} (h : labels.ofLot lot = l)
    (lots : List PositionLot) : labels.lotsIn l (lot :: lots) = lot :: labels.lotsIn l lots :=
  List.filter_cons_of_pos (decide_eq_true h)

theorem Labels.lotsIn_cons_of_ne {lot : PositionLot} (h : labels.ofLot lot ≠ l)
    (lots : List PositionLot) : labels.lotsIn l (lot :: lots) = labels.lotsIn l lots :=
  List.filter_cons_of_neg (by rwa [decide_eq_true_iff])

theorem Labels.fillsIn_concat_of_eq {fill : FillRecord} (h : labels.ofFill fill = l)
    (fills : List FillRecord) : labels.fillsIn l (fills ++ [fill]) = labels.fillsIn l fills ++ [fill] := by
  simp [Labels.fillsIn, h]

theorem Labels.fillsIn_concat_of_ne {fill : FillRecord} (h : labels.ofFill fill ≠ l)
    (fills : List FillRecord) : labels.fillsIn l (fills ++ [fill]) = labels.fillsIn l fills := by
  simp [Labels.fillsIn, h]

theorem DirectedTo.label (h : DirectedTo side lots) (l : L) :
    DirectedTo side (labels.lotsIn l lots) :=
  ⟨h.unit, fun lot hmem => h.lots lot (List.mem_filter.mp hmem).1⟩

theorem closeLots_own (hdirected : DirectedTo side lots) (hrem : epsilon12 < |remaining|)
    (hown : ∀ lot ∈ touchedLots lots remaining, labels.ofLot lot = l) :
    closeLots fill (labels.lotsIn l lots) remaining =
      { closeLots fill lots remaining with
        lots := labels.lotsIn l (closeLots fill lots remaining).lots } := by
  induction lots generalizing remaining with
  | nil => rfl
  | cons lot lots ih =>
    rcases loop_cases lot.quantity remaining with hsame | ⟨hopposite, hupdated, hleft⟩ |
      ⟨hopposite, hupdated, hleft⟩ | ⟨hopposite, hupdated⟩
    · have hside := hdirected.side_of_same hrem hsame
      rw [closeLots_of_side (hdirected.label l) hside, closeLots_of_side hdirected hside]
    -- the oldest lot is touched, so it is the oldest of its label
    · have hlot := hown lot (mem_touchedLots hopposite lots)
      rw [Labels.lotsIn_cons_of_eq hlot, closeLots_last hopposite fill _ hupdated hleft,
        closeLots_last hopposite fill _ hupdated hleft]
    · have hlot := hown lot (mem_touchedLots hopposite lots)
      rw [touchedLots_next hopposite lots hupdated hleft] at hown
      rw [Labels.lotsIn_cons_of_eq hlot, closeLots_next hopposite fill _ hupdated hleft,
        closeLots_next hopposite fill _ hupdated hleft,
        ih hdirected.tail (isEffectivelyZero_eq_false.mp hleft)
          (fun other hmem => hown other (List.mem_cons_of_mem _ hmem))]
    · have hlot := hown lot (mem_touchedLots hopposite lots)
      rw [Labels.lotsIn_cons_of_eq hlot, closeLots_shrunk hopposite fill _ hupdated,
        closeLots_shrunk hopposite fill _ hupdated,
        Labels.lotsIn_cons_of_eq ((labels.ofLot_resize _ _).trans hlot)]

theorem lotsIn_closeLots_of_ne (hne : l ≠ m)
    (hown : ∀ lot ∈ touchedLots lots remaining, labels.ofLot lot = l) :
    labels.lotsIn m (closeLots fill lots remaining).lots = labels.lotsIn m lots := by
  induction lots generalizing remaining with
  | nil => rfl
  | cons lot lots ih =>
    rcases loop_cases lot.quantity remaining with hsame | ⟨hopposite, hupdated, hleft⟩ |
      ⟨hopposite, hupdated, hleft⟩ | ⟨hopposite, hupdated⟩
    · rw [closeLots_same fill lots hsame]
    · have hlot := hown lot (mem_touchedLots hopposite lots)
      rw [closeLots_last hopposite fill lots hupdated hleft,
        Labels.lotsIn_cons_of_ne (hlot ▸ hne)]
    · have hlot := hown lot (mem_touchedLots hopposite lots)
      rw [touchedLots_next hopposite lots hupdated hleft] at hown
      rw [closeLots_next hopposite fill lots hupdated hleft,
        Labels.lotsIn_cons_of_ne (hlot ▸ hne),
        ih (fun other hmem => hown other (List.mem_cons_of_mem _ hmem))]
    · have hlot := hown lot (mem_touchedLots hopposite lots)
      rw [closeLots_shrunk hopposite fill lots hupdated,
        Labels.lotsIn_cons_of_ne (by rw [labels.ofLot_resize, hlot]; exact hne),
        Labels.lotsIn_cons_of_ne (hlot ▸ hne)]

theorem Labels.quantityIn_cons (lot : PositionLot) (lots : List PositionLot) :
    labels.quantityIn m (lot :: lots) =
      (if labels.ofLot lot = m then lot.quantity else 0) + labels.quantityIn m lots := by
  unfold Labels.quantityIn
  split
  next h => rw [Labels.lotsIn_cons_of_eq h, lotQuantity_cons]
  next h => rw [Labels.lotsIn_cons_of_ne h, zero_add]

/-- **What a fill closes from a label moves the quantity of that label**, in the direction of the
fill, and strictly if it closes from any lot of it. -/
theorem quantityIn_closeLots (hside : 0 < side * remaining) :
    (0 ≤ side * (labels.quantityIn m (closeLots fill lots remaining).lots -
      labels.quantityIn m lots)) ∧
    ((∃ lot ∈ touchedLots lots remaining, labels.ofLot lot = m) →
      0 < side * (labels.quantityIn m (closeLots fill lots remaining).lots -
        labels.quantityIn m lots)) := by
  induction lots generalizing remaining with
  | nil => simp [closeLots, touchedLots]
  | cons lot lots ih =>
    rcases loop_cases lot.quantity remaining with hsame | ⟨hopposite, hupdated, hleft⟩ |
      ⟨hopposite, hupdated, hleft⟩ | ⟨hopposite, hupdated⟩
    · rw [closeLots_same fill lots hsame, touchedLots_same lots hsame]
      simp
    · obtain ⟨hneg, -⟩ := close_cases hside hopposite
      rw [closeLots_last hopposite fill lots hupdated hleft, Labels.quantityIn_cons,
        touchedLots_last hopposite lots (.inr hleft)]
      split
      next h => exact ⟨by linarith, fun _ => by linarith⟩
      next h => simp [h]
    · obtain ⟨hneg, hcases⟩ := close_cases hside hopposite
      have hsideLeft : 0 < side * leftQty lot.quantity remaining := by
        have hne : leftQty lot.quantity remaining ≠ 0 := by
          intro h0
          rw [h0, isEffectivelyZero_zero] at hleft
          cases hleft
        have hsideNe : side ≠ 0 := left_ne_zero_of_mul hside.ne'
        rcases hcases with ⟨-, heq, hnonneg⟩ | ⟨-, heq, -⟩
        · rw [heq] at hne ⊢
          exact lt_of_le_of_ne hnonneg (mul_ne_zero hsideNe hne).symm
        · exact absurd heq hne
      obtain ⟨hle, hlt⟩ := ih hsideLeft
      rw [closeLots_next hopposite fill lots hupdated hleft, Labels.quantityIn_cons,
        touchedLots_next hopposite lots hupdated hleft]
      split
      next h => exact ⟨by simp only; linarith, fun _ => by simp only; linarith⟩
      next h =>
        rw [zero_add]
        refine ⟨hle, ?_⟩
        rintro ⟨other, hmem, hother⟩
        rcases List.mem_cons.mp hmem with rfl | hmem
        · exact absurd hother h
        · exact hlt ⟨other, hmem, hother⟩
    · obtain ⟨hneg, hcases⟩ := close_cases hside hopposite
      have hgrows : 0 < side * (updatedLotQty lot.quantity remaining - lot.quantity) := by
        rcases hcases with ⟨heq, -, -⟩ | ⟨heq, -, -⟩
        · rw [heq]
          linarith
        · rw [heq]
          linarith
      rw [closeLots_shrunk hopposite fill lots hupdated, Labels.quantityIn_cons,
        Labels.quantityIn_cons, labels.ofLot_resize, touchedLots_last hopposite lots (.inl hupdated)]
      split
      next h => exact ⟨by linarith, fun _ => by linarith⟩
      next h => simp [h]

/-! ### One fill and all labels -/

theorem lotsIn_concat_newLot (l : L) (lots : List PositionLot) (fill : FillRecord)
    (remaining : ℚ) :
    labels.lotsIn l (lots ++ [newLot fill remaining]) =
      labels.lotsIn l lots ++ if labels.ofFill fill = l then [newLot fill remaining] else [] := by
  unfold Labels.lotsIn
  rw [List.filter_append, List.filter_cons, labels.ofLot_newLot]
  split <;> simp_all

theorem matchLots_own (hlots : Directed lots) (hzero : isEffectivelyZero fill.fillQty = false)
    (hown : ∀ lot ∈ touchedLots lots (signedQty fill.toFillEvent),
      labels.ofLot lot = labels.ofFill fill) :
    (matchLots fill (labels.lotsIn (labels.ofFill fill) lots)).1 =
      labels.lotsIn (labels.ofFill fill) (matchLots fill lots).1 := by
  obtain ⟨side, hdirected⟩ := hlots
  unfold matchLots
  rw [closeLots_own hdirected (epsilon12_lt_abs_signedQty hzero) hown]
  simp only
  split
  next => rfl
  next => rw [lotsIn_concat_newLot, if_pos rfl]

theorem lotsIn_matchLots_of_ne (hne : labels.ofFill fill ≠ m)
    (hown : ∀ lot ∈ touchedLots lots (signedQty fill.toFillEvent),
      labels.ofLot lot = labels.ofFill fill) :
    labels.lotsIn m (matchLots fill lots).1 = labels.lotsIn m lots := by
  have hclosed : labels.lotsIn m (closeLots fill lots (signedQty fill.toFillEvent)).lots =
      labels.lotsIn m lots := lotsIn_closeLots_of_ne hne hown
  unfold matchLots
  simp only
  split
  next => exact hclosed
  next => rw [lotsIn_concat_newLot, if_neg hne, List.append_nil, hclosed]

theorem bookOf_concat (fills : List FillRecord) (fill : FillRecord) :
    bookOf (fills ++ [fill]) = (bookOf fills).process fill := by
  rw [bookOf, List.foldl_append]
  rfl

theorem lotsOf_process_of_skipped
    (h : isEffectivelyZero fill.fillQty = true ∨ isQuarantined fill = true) (book : LotBook)
    (key : String) : (book.process fill).lotsOf key = book.lotsOf key := by
  rcases book.process_cases fill with ⟨-, -, -, hprocess⟩ | ⟨-, -, failure, hprocess⟩ |
    ⟨hzero, haccepted, -⟩
  · rw [hprocess]
    rfl
  · rw [hprocess]
    rfl
  · rw [hzero, haccepted] at h
    simp at h

theorem splitBy_concat {fills : List FillRecord} (hsplit : SplitBy labels fills)
    (hown : ClosesOwn labels (bookOf fills) fill) : SplitBy labels (fills ++ [fill]) := by
  intro l key
  -- what the fill does to the book of a label
  have hlabel : bookOf (labels.fillsIn l (fills ++ [fill])) =
      if labels.ofFill fill = l then (bookOf (labels.fillsIn l fills)).process fill
      else bookOf (labels.fillsIn l fills) := by
    split
    next h => rw [Labels.fillsIn_concat_of_eq h, bookOf_concat]
    next h => rw [Labels.fillsIn_concat_of_ne h]
  have hkeyed := keyed_foldl_process fills
  have hkeyedIn := keyed_foldl_process (labels.fillsIn l fills)
  rw [bookOf_concat, hlabel]
  by_cases hskipped : isEffectivelyZero fill.fillQty = true ∨ isQuarantined fill = true
  · rw [lotsOf_process_of_skipped hskipped]
    split
    next =>
      rw [lotsOf_process_of_skipped hskipped]
      exact hsplit l key
    next => exact hsplit l key
  · rw [not_or, Bool.not_eq_true, Bool.not_eq_true] at hskipped
    obtain ⟨hzero, haccepted⟩ := hskipped
    by_cases hkey : positionKeyForFill fill.toFillEvent = key
    · subst hkey
      have hmine := hown hzero haccepted
      rw [(LotBook.process_own hkeyed hzero haccepted).1]
      split
      next h =>
        subst h
        rw [(LotBook.process_own hkeyedIn hzero haccepted).1, ← hsplit]
        exact (matchLots_own (directed_foldl_process fills _) hzero hmine).symm
      next h => rw [lotsIn_matchLots_of_ne h hmine, hsplit]
    · rw [(LotBook.sameUnder_process hkeyed hkey).1]
      split
      next =>
        rw [(LotBook.sameUnder_process hkeyedIn hkey).1]
        exact hsplit l key
      next => exact hsplit l key

theorem quantityIn_process_ne {fills : List FillRecord}
    (h : ¬ClosesOwn labels (bookOf fills) fill) :
    ∃ m, labels.ofFill fill ≠ m ∧
      labels.quantityIn m (((bookOf fills).process fill).lotsOf
        (positionKeyForFill fill.toFillEvent)) ≠
      labels.quantityIn m ((bookOf fills).lotsOf (positionKeyForFill fill.toFillEvent)) := by
  simp only [ClosesOwn, not_forall] at h
  obtain ⟨hzero, haccepted, lot, htouched, hother⟩ := h
  obtain ⟨side, -, hside⟩ := exists_side (epsilon12_lt_abs_signedQty hzero)
  refine ⟨labels.ofLot lot, Ne.symm hother, ?_⟩
  rw [(LotBook.process_own (keyed_foldl_process fills) hzero haccepted).1]
  generalize (bookOf fills).lotsOf (positionKeyForFill fill.toFillEvent) = lots at htouched ⊢
  have hmoved : 0 < side * (labels.quantityIn (labels.ofLot lot)
      (closeLots fill lots (signedQty fill.toFillEvent)).lots -
        labels.quantityIn (labels.ofLot lot) lots) :=
    (quantityIn_closeLots (epsilon12_pos.trans hside)).2 ⟨lot, htouched, rfl⟩
  have hmatched : labels.quantityIn (labels.ofLot lot) (matchLots fill lots).1 =
      labels.quantityIn (labels.ofLot lot)
        (closeLots fill lots (signedQty fill.toFillEvent)).lots := by
    unfold matchLots Labels.quantityIn
    simp only
    split
    next => rfl
    next => rw [lotsIn_concat_newLot, if_neg (Ne.symm hother), List.append_nil]
  rw [hmatched]
  intro heq
  rw [heq, sub_self, mul_zero] at hmoved
  exact lt_irrefl _ hmoved

end Aats.Portfolio
