import Mathlib.Algebra.Order.BigOperators.Group.List
import Mathlib.Algebra.Order.Field.Basic
import Mathlib.Algebra.BigOperators.Ring.List
import Mathlib.Tactic.Linarith
import Mathlib.Tactic.Ring

/-!
# Water-filling

Items with limits and weights share a cap. A level rises until the cap is used up: an item has what
the level gives to its weight, but not more than its limit.

What a cap is filled up to can also be found in rounds: an item whose limit fits into its share of what
remains is fulfilled and taken out, and when no limit fits, the items that are left take their shares.
Here both the test and the shares may be off by a little, as where they are rounded.

## Main definitions
* `Filling` — what holds while items are fulfilled and taken out.

## Main results
* `distance_fill` — two levels are as far apart as their totals.
* `distance_le_of_near_fill` — **allotments near some levels that use the same cap are near each
  other**.
-/

namespace WaterFilling

variable {ι K : Type*} [Field K]

/-! ### Totals -/

def total (f : ι → K) (items : List ι) : K := (items.map f).sum

variable {f g h limit weight : ι → K} {items others : List ι} {item : ι} {level level' c : K}

@[simp] theorem total_nil : total f [] = 0 := rfl

@[simp] theorem total_cons : total f (item :: items) = f item + total f items := by
  rw [total, List.map_cons, List.sum_cons, total]

@[simp] theorem total_append : total f (items ++ others) = total f items + total f others := by
  rw [total, List.map_append, List.sum_append, total, total]

theorem total_perm (h : items.Perm others) : total f items = total f others := (h.map f).sum_eq

theorem total_congr (h : ∀ item ∈ items, f item = g item) : total f items = total g items := by
  unfold total
  rw [List.map_congr_left h]

theorem total_add : total (fun item => f item + g item) items = total f items + total g items :=
  List.sum_map_add

theorem total_sub : total (fun item => f item - g item) items = total f items - total g items := by
  induction items with
  | nil => simp
  | cons item items ih =>
    rw [total_cons, total_cons, total_cons, ih]
    ring

theorem total_mul : total (fun item => c * f item) items = c * total f items :=
  List.sum_map_mul_left _ _ _

theorem total_shares (h : total weight items ≠ 0) (cap : K) :
    total (fun item => cap * weight item / total weight items) items = cap := by
  have hmul : (fun item => cap * weight item / total weight items) =
      fun item => cap / total weight items * weight item := by
    funext item
    ring
  rw [hmul, total_mul, div_mul_cancel₀ _ h]

/-! ### Distances and levels -/

variable [LinearOrder K]

def distance (f g : ι → K) (items : List ι) : K := total (fun item => |f item - g item|) items

theorem distance_append :
    distance f g (items ++ others) = distance f g items + distance f g others := total_append

theorem distance_perm (h : items.Perm others) : distance f g items = distance f g others :=
  total_perm h

theorem distance_comm (f g : ι → K) (items : List ι) : distance f g items = distance g f items :=
  total_congr fun _ _ => abs_sub_comm _ _

def fill (limit weight : ι → K) (level : K) (item : ι) : K := min (limit item) (level * weight item)

theorem fill_le_limit : fill limit weight level item ≤ limit item := min_le_left _ _

theorem fill_le_share : fill limit weight level item ≤ level * weight item := min_le_right _ _

/-! ### Bounds -/

variable [IsStrictOrderedRing K]

theorem total_le (h : ∀ item ∈ items, f item ≤ g item) : total f items ≤ total g items :=
  List.sum_le_sum h

theorem total_nonneg (h : ∀ item ∈ items, 0 ≤ f item) : 0 ≤ total f items := by
  refine List.sum_nonneg fun x hx => ?_
  obtain ⟨item, hitem, rfl⟩ := List.mem_map.mp hx
  exact h item hitem

theorem total_le_mul_length (h : ∀ item ∈ items, f item ≤ c) :
    total f items ≤ c * items.length := by
  induction items with
  | nil => simp
  | cons item items ih =>
    have hitem := h item List.mem_cons_self
    have hrest := ih fun other hother => h other (List.mem_cons_of_mem _ hother)
    rw [total_cons, List.length_cons]
    push_cast
    linarith

theorem apply_le_total (h : ∀ item ∈ items, 0 ≤ f item) (hitem : item ∈ items) :
    f item ≤ total f items := by
  refine List.single_le_sum (fun x hx => ?_) _ (List.mem_map_of_mem hitem)
  obtain ⟨other, hother, rfl⟩ := List.mem_map.mp hx
  exact h other hother

theorem distance_nonneg : 0 ≤ distance f g items := total_nonneg fun _ _ => abs_nonneg _

theorem distance_triangle (f g h : ι → K) (items : List ι) :
    distance f h items ≤ distance f g items + distance g h items := by
  unfold distance
  rw [← total_add]
  exact total_le fun item _ => abs_sub_le _ _ _

theorem abs_sub_le_distance (hitem : item ∈ items) : |f item - g item| ≤ distance f g items :=
  apply_le_total (f := fun item => |f item - g item|) (fun _ _ => abs_nonneg _) hitem

theorem abs_total_sub_le (f g : ι → K) (items : List ι) :
    |total f items - total g items| ≤ distance f g items := by
  unfold distance
  rw [← total_sub, abs_le]
  constructor
  · have hneg : -total (fun item => |f item - g item|) items =
        total (fun item => -|f item - g item|) items := by
      rw [neg_eq_neg_one_mul, ← total_mul]
      exact total_congr fun item _ => by ring
    rw [hneg]
    exact total_le fun item _ => neg_abs_le _
  · exact total_le fun item _ => le_abs_self _

theorem distance_of_le (h : ∀ item ∈ items, f item ≤ g item) :
    distance f g items = total g items - total f items := by
  rw [← total_sub]
  refine total_congr fun item hitem => ?_
  rw [abs_sub_comm, abs_of_nonneg (sub_nonneg.mpr (h item hitem))]

theorem distance_eq_zero (h : ∀ item ∈ items, f item = g item) : distance f g items = 0 := by
  rw [distance_of_le fun item hitem => (h item hitem).le, total_congr h, sub_self]

theorem distance_le_mul_length (h : ∀ item ∈ items, |f item - g item| ≤ c) :
    distance f g items ≤ c * items.length := total_le_mul_length h

theorem fill_mono (hweight : 0 ≤ weight item) (h : level ≤ level') :
    fill limit weight level item ≤ fill limit weight level' item :=
  min_le_min_left _ (mul_le_mul_of_nonneg_right h hweight)

theorem distance_fill (hweight : ∀ item ∈ items, 0 ≤ weight item) (level level' : K) :
    distance (fill limit weight level) (fill limit weight level') items =
      |total (fill limit weight level) items - total (fill limit weight level') items| := by
  rcases le_total level level' with h | h
  · have hle : ∀ item ∈ items, fill limit weight level item ≤ fill limit weight level' item :=
      fun item hitem => fill_mono (hweight item hitem) h
    rw [distance_of_le hle, abs_sub_comm, abs_of_nonneg (sub_nonneg.mpr (total_le hle))]
  · have hle : ∀ item ∈ items, fill limit weight level' item ≤ fill limit weight level item :=
      fun item hitem => fill_mono (hweight item hitem) h
    rw [distance_comm, distance_of_le hle, abs_of_nonneg (sub_nonneg.mpr (total_le hle))]

/-- **Allotments that are near some levels and use nearly the same cap are near each other.** -/
theorem distance_le_of_near_fill (hweight : ∀ item ∈ items, 0 ≤ weight item) {cap near off : K}
    (hf : distance f (fill limit weight level) items ≤ near)
    (hg : distance g (fill limit weight level') items ≤ near)
    (hfcap : |total f items - cap| ≤ off) (hgcap : |total g items - cap| ≤ off) :
    distance f g items ≤ 4 * near + 2 * off := by
  have hftotal := abs_total_sub_le f (fill limit weight level) items
  have hgtotal := abs_total_sub_le g (fill limit weight level') items
  have hlevels : distance (fill limit weight level) (fill limit weight level') items ≤
      2 * near + 2 * off := by
    rw [distance_fill hweight, abs_le]
    rw [abs_le] at hftotal hgtotal hfcap hgcap
    constructor <;> linarith
  have hfirst := distance_triangle f (fill limit weight level) g items
  have hsecond := distance_triangle (fill limit weight level) (fill limit weight level') g items
  rw [distance_comm (fill limit weight level')] at hsecond
  linarith

/-! ### Rounds -/

/-- Some items are fulfilled, the others still wait for their share of what remains of the cap: the
fulfilled ones fit under the level, up to some slack, and for the others the level is not too high. -/
structure Filling (limit weight : ι → K) (slack cap : K) (fulfilled pending : List ι)
    (remaining level : K) : Prop where
  fits : ∀ item ∈ fulfilled, limit item ≤ level * weight item + slack
  spends : remaining + total limit fulfilled = cap
  level_nonneg : 0 ≤ level
  reach : level * total weight pending ≤ remaining + slack * fulfilled.length

namespace Filling

variable {slack cap remaining : K} {fulfilled pending kept : List ι}

omit [IsStrictOrderedRing K] in
theorem start (hcap : 0 ≤ cap) : Filling limit weight slack cap [] items cap 0 where
  fits := fun item hitem => absurd hitem List.not_mem_nil
  spends := by rw [total_nil, add_zero]
  level_nonneg := le_rfl
  reach := by simpa using hcap

theorem raise (h : Filling limit weight slack cap fulfilled pending remaining level)
    (hslack : 0 ≤ slack) (hweight : ∀ item ∈ fulfilled, 0 ≤ weight item)
    (hpending : 0 < total weight pending) :
    Filling limit weight slack cap fulfilled pending remaining
      (max level (remaining / total weight pending)) where
  fits := by
    intro item hitem
    have hmore := mul_le_mul_of_nonneg_right (le_max_left level (remaining / total weight pending))
      (hweight item hitem)
    linarith [h.fits item hitem]
  spends := h.spends
  level_nonneg := h.level_nonneg.trans (le_max_left _ _)
  reach := by
    rw [max_mul_of_nonneg _ _ hpending.le, div_mul_cancel₀ _ hpending.ne']
    refine max_le h.reach ?_
    have hlength : 0 ≤ slack * (fulfilled.length : K) := mul_nonneg hslack (Nat.cast_nonneg _)
    linarith

theorem fulfil (h : Filling limit weight slack cap fulfilled (kept ++ item :: items) remaining level)
    (hitem : limit item ≤ level * weight item + slack) :
    Filling limit weight slack cap (fulfilled ++ [item]) (kept ++ items) (remaining - limit item)
      level where
  fits := by
    intro other hother
    rcases List.mem_append.mp hother with hother | hother
    · exact h.fits other hother
    · rw [List.mem_singleton.mp hother]
      exact hitem
  spends := by
    rw [total_append, total_cons, total_nil, ← h.spends]
    ring
  level_nonneg := h.level_nonneg
  reach := by
    have hreach := h.reach
    rw [total_append, total_cons] at hreach
    rw [total_append, List.length_append, List.length_singleton]
    push_cast
    linarith

theorem distance_fulfilled (h : Filling limit weight slack cap fulfilled pending remaining level)
    (hslack : 0 ≤ slack) (hf : ∀ item ∈ fulfilled, f item = limit item) :
    distance f (fill limit weight level) fulfilled ≤ slack * fulfilled.length := by
  refine distance_le_mul_length fun item hitem => ?_
  rw [hf item hitem, abs_of_nonneg (sub_nonneg.mpr fill_le_limit), sub_le_comm]
  refine le_min (by linarith) ?_
  linarith [h.fits item hitem]

theorem distance_of_spent (h : Filling limit weight slack cap fulfilled pending remaining level)
    (hslack : 0 ≤ slack) (hlimit : ∀ item ∈ pending, 0 ≤ limit item)
    (hweight : ∀ item ∈ pending, 0 ≤ weight item)
    (hf : ∀ item ∈ fulfilled, f item = limit item) (hzero : ∀ item ∈ pending, f item = 0) :
    distance f (fill limit weight level) (fulfilled ++ pending) ≤
      2 * slack * fulfilled.length + remaining := by
  have hpending : distance f (fill limit weight level) pending ≤
      remaining + slack * fulfilled.length := by
    refine le_trans ?_ h.reach
    rw [← total_mul]
    refine total_le fun item hitem => ?_
    have hnonneg : 0 ≤ fill limit weight level item :=
      le_min (hlimit item hitem) (mul_nonneg h.level_nonneg (hweight item hitem))
    rw [hzero item hitem, zero_sub, abs_neg, abs_of_nonneg hnonneg]
    exact fill_le_share
  rw [distance_append]
  linarith [h.distance_fulfilled hslack hf]

/-- When no share reaches a limit, the items that wait take their shares, and what all have is near
the level. -/
theorem distance_of_shares (h : Filling limit weight slack cap fulfilled pending remaining level)
    (hslack : 0 ≤ slack) (hweight : ∀ item ∈ fulfilled ++ pending, 0 ≤ weight item)
    (hpending : 0 < total weight pending) {off : K}
    (hf : ∀ item ∈ fulfilled, f item = limit item)
    (hshare : ∀ item ∈ pending, remaining * weight item / total weight pending ≤ limit item ∧
      |f item - remaining * weight item / total weight pending| ≤ off) :
    distance f (fill limit weight (max level (remaining / total weight pending)))
        (fulfilled ++ pending) ≤ 2 * slack * fulfilled.length + off * pending.length := by
  have hraised := h.raise hslack (fun item hitem => hweight item (List.mem_append_left _ hitem))
    hpending
  set top := max level (remaining / total weight pending) with htop
  set share : ι → K := fun item => remaining * weight item / total weight pending with hshareDef
  have hshares : total share pending = remaining := total_shares hpending.ne' remaining
  -- the level gives to everyone that waits at least the share, and all that is not much more
  have hbelow : ∀ item ∈ pending, share item ≤ fill limit weight top item := by
    intro item hitem
    refine le_min (hshare item hitem).1 ?_
    have hle := mul_le_mul_of_nonneg_right (le_max_right level (remaining / total weight pending))
      (hweight item (List.mem_append_right _ hitem))
    calc share item = remaining / total weight pending * weight item := by rw [hshareDef]; ring
      _ ≤ top * weight item := hle
  have htotal : total (fill limit weight top) pending ≤ remaining + slack * fulfilled.length := by
    refine le_trans ?_ hraised.reach
    rw [← total_mul]
    exact total_le fun item _ => fill_le_share
  have hnear : distance share (fill limit weight top) pending ≤ slack * fulfilled.length := by
    rw [distance_of_le hbelow, hshares]
    linarith
  have hoff : distance f share pending ≤ off * pending.length :=
    distance_le_mul_length fun item hitem => (hshare item hitem).2
  have htriangle := distance_triangle f share (fill limit weight top) pending
  rw [distance_append]
  linarith [hraised.distance_fulfilled hslack hf]

end Filling

end WaterFilling
