import Mathlib.Algebra.BigOperators.Group.Finset.Piecewise
import Mathlib.Algebra.Order.Ring.Abs
import Mathlib.Tactic.Linarith
import Mathlib.Tactic.LinearCombination
import Mathlib.Tactic.Ring

/-!
# Holdings and the cash flow of trades

A holding is what any method of keeping positions has of one instrument: a signed quantity, the
cost of that quantity and the profit realized so far. How a method splits a trade into a part
that opens and a part that closes is its own affair. It is sound if every trade changes profit
plus cash spent by exactly the change of the cost; then the holding `Balances` all its trades, and
profit plus unrealized profit at any mark price is the value of the trades at that price. Two
sound methods therefore agree on the equity, and on the realized profit once the holding is flat.

The second part is about quantities that are whole multiples of a step: one that is smaller than
the step is zero.

## Main definitions
* `Holding`, `Holding.Balances` — holdings, and that they account for a list of trades.
* `Holding.equity` — realized plus unrealized profit at a mark price.
* `OnGrid step x` — `x` is a whole multiple of `step`.

## Main results
* `forall_prices_iff` — amounts that are worth nothing at all prices are zero.
-/

namespace Holdings

/-! ### Holdings -/

section Holding

variable {R : Type*} [CommRing R]

abbrev Trade (R : Type*) := R × R

def netQuantity (trades : List (Trade R)) : R := (trades.map Prod.fst).sum

def cashSpent (trades : List (Trade R)) : R := (trades.map (fun trade => trade.1 * trade.2)).sum

@[simp] theorem cashSpent_nil : cashSpent ([] : List (Trade R)) = 0 := rfl

theorem netQuantity_concat (trades : List (Trade R)) (quantity price : R) :
    netQuantity (trades ++ [(quantity, price)]) = netQuantity trades + quantity := by
  simp [netQuantity]

theorem cashSpent_concat (trades : List (Trade R)) (quantity price : R) :
    cashSpent (trades ++ [(quantity, price)]) = cashSpent trades + quantity * price := by
  simp [cashSpent]

/-- What a method of keeping positions has of one instrument. -/
@[ext] structure Holding (R : Type*) where
  quantity : R
  cost : R
  profit : R

namespace Holding

/-- Nothing held, nothing realized. -/
def empty : Holding R := { quantity := 0, cost := 0, profit := 0 }

/-- Realized plus unrealized profit at a mark price. -/
def equity (holding : Holding R) (mark : R) : R :=
  holding.profit + (holding.quantity * mark - holding.cost)

/-- The holding accounts for a list of trades: its quantity is what they net to, and what it has
not realized of the cash spent is its cost. -/
structure Balances (holding : Holding R) (trades : List (Trade R)) : Prop where
  quantity_eq : holding.quantity = netQuantity trades
  profit_eq : holding.profit = holding.cost - cashSpent trades

theorem balances_empty : (empty : Holding R).Balances [] where
  quantity_eq := rfl
  profit_eq := by simp [empty]

variable {holding next other : Holding R} {trades : List (Trade R)} {quantity price : R}

/-- **A sound trade**: the quantity is added, and the profit and the cash spent together change as
the cost does. -/
theorem Balances.trade (h : holding.Balances trades)
    (hquantity : next.quantity = holding.quantity + quantity)
    (hprofit : next.profit - holding.profit + quantity * price = next.cost - holding.cost) :
    next.Balances (trades ++ [(quantity, price)]) where
  quantity_eq := by rw [netQuantity_concat, hquantity, h.quantity_eq]
  profit_eq := by
    have hbefore := h.profit_eq
    rw [cashSpent_concat]
    linear_combination hprofit + hbefore

theorem Balances.equity_eq (h : holding.Balances trades) (mark : R) :
    holding.equity mark = netQuantity trades * mark - cashSpent trades := by
  unfold equity
  rw [h.profit_eq, h.quantity_eq]
  ring

theorem Balances.equity_congr (h : holding.Balances trades) (h' : other.Balances trades)
    (mark : R) : holding.equity mark = other.equity mark := by
  rw [h.equity_eq, h'.equity_eq]

theorem Balances.profit_congr (h : holding.Balances trades) (h' : other.Balances trades)
    (hcost : holding.cost = 0) (hcost' : other.cost = 0) : holding.profit = other.profit := by
  rw [h.profit_eq, h'.profit_eq, hcost, hcost']

theorem Balances.perm {others : List (Trade R)} (h : holding.Balances trades)
    (hperm : trades.Perm others) : holding.Balances others where
  quantity_eq := h.quantity_eq.trans (hperm.map _).sum_eq
  profit_eq := by
    have hspent : cashSpent trades = cashSpent others := (hperm.map _).sum_eq
    rw [h.profit_eq, hspent]

end Holding

theorem sum_by_key {α κ : Type*} [DecidableEq κ] (key : α → κ) (f : α → R) (keys : Finset κ)
    {items : List α} (h : ∀ item ∈ items, key item ∈ keys) :
    (items.map f).sum = ∑ k ∈ keys, ((items.filter (fun item => key item = k)).map f).sum := by
  induction items with
  | nil => simp
  | cons item items ih =>
    have hrest := ih (fun other hmem => h other (List.mem_cons_of_mem _ hmem))
    have hhead : ∀ k, (((item :: items).filter (fun item => key item = k)).map f).sum =
        (if key item = k then f item else 0) +
          ((items.filter (fun item => key item = k)).map f).sum := by
      intro k
      by_cases hk : key item = k <;> simp [hk]
    rw [List.map_cons, List.sum_cons, hrest, Finset.sum_congr rfl (fun k _ => hhead k),
      Finset.sum_add_distrib, Finset.sum_ite_eq, if_pos (h item List.mem_cons_self)]

theorem sum_shift {κ : Type*} [DecidableEq κ] {keys : Finset κ} {f g : κ → R} (key : κ)
    (h : ∀ k, k ≠ key → f k = g k) :
    ∑ k ∈ keys, f k = ∑ k ∈ keys, g k + if key ∈ keys then f key - g key else 0 := by
  rw [← sub_eq_iff_eq_add', ← Finset.sum_sub_distrib]
  split
  · next hmem =>
    apply Finset.sum_eq_single_of_mem key hmem
    intro k _ hne
    rw [h k hne, sub_self]
  · next hmem =>
    apply Finset.sum_eq_zero
    intro k hk
    rw [h k (fun heq => hmem (heq ▸ hk)), sub_self]

end Holding

/-! ### Values at all prices -/

theorem forall_prices_iff {R : Type*} [CommRing R] [LinearOrder R] [IsStrictOrderedRing R]
    {κ σ : Type*} [DecidableEq κ] [DecidableEq σ] {symbol : κ → σ}
    (hsymbol : Function.Injective symbol) (keys : Finset κ) (amount : κ → R) :
    (∀ price : σ → R, (∀ s, 0 < price s) → ∑ k ∈ keys, price (symbol k) * amount k = 0) ↔
      ∀ k ∈ keys, amount k = 0 := by
  constructor
  · intro h key hkey
    -- all prices one, and the price of this key raised by one
    have hones := h (fun _ => 1) fun _ => one_pos
    have hraised := h (fun s => if s = symbol key then 2 else 1) fun s => by
      split
      · exact two_pos
      · exact one_pos
    have hshift : ∑ k ∈ keys, (if symbol k = symbol key then (2 : R) else 1) * amount k =
        ∑ k ∈ keys, 1 * amount k + if key ∈ keys then
          (if symbol key = symbol key then (2 : R) else 1) * amount key - 1 * amount key else 0 :=
      sum_shift key fun k hne => by rw [if_neg fun heq => hne (hsymbol heq)]
    rw [if_pos hkey, hraised, hones, if_pos rfl] at hshift
    linear_combination -hshift
  · intro h price _
    exact Finset.sum_eq_zero fun k hk => by rw [h k hk, mul_zero]

/-! ### Quantities on a grid -/

section Grid

variable {R : Type*} [CommRing R] {step x y : R}

/-- `x` is a whole multiple of `step`. -/
def OnGrid (step x : R) : Prop := ∃ n : ℤ, x = n * step

theorem onGrid_zero (step : R) : OnGrid step 0 := ⟨0, by simp⟩

theorem OnGrid.add (hx : OnGrid step x) (hy : OnGrid step y) : OnGrid step (x + y) := by
  obtain ⟨m, rfl⟩ := hx
  obtain ⟨n, rfl⟩ := hy
  exact ⟨m + n, by push_cast; ring⟩

theorem OnGrid.neg (hx : OnGrid step x) : OnGrid step (-x) := by
  obtain ⟨m, rfl⟩ := hx
  exact ⟨-m, by push_cast; ring⟩

theorem OnGrid.sub (hx : OnGrid step x) (hy : OnGrid step y) : OnGrid step (x - y) := by
  rw [sub_eq_add_neg]
  exact hx.add hy.neg

theorem OnGrid.trans {fine : R} (hstep : OnGrid fine step) (hx : OnGrid step x) :
    OnGrid fine x := by
  obtain ⟨m, rfl⟩ := hstep
  obtain ⟨n, rfl⟩ := hx
  exact ⟨n * m, by push_cast; ring⟩

theorem OnGrid.mul {other : R} (hx : OnGrid step x) (hy : OnGrid other y) :
    OnGrid (step * other) (x * y) := by
  obtain ⟨m, rfl⟩ := hx
  obtain ⟨n, rfl⟩ := hy
  exact ⟨m * n, by push_cast; ring⟩

variable [LinearOrder R]

theorem OnGrid.abs (hx : OnGrid step x) : OnGrid step |x| := by
  rcases abs_choice x with h | h <;> rw [h]
  · exact hx
  · exact hx.neg

theorem OnGrid.min (hx : OnGrid step x) (hy : OnGrid step y) : OnGrid step (min x y) := by
  rcases min_choice x y with h | h <;> rw [h]
  · exact hx
  · exact hy

variable [IsStrictOrderedRing R]

theorem OnGrid.eq_zero (hx : OnGrid step x) (hlt : |x| < step) : x = 0 := by
  obtain ⟨n, rfl⟩ := hx
  have hstep : 0 < step := (abs_nonneg _).trans_lt hlt
  rw [abs_mul, abs_of_pos hstep] at hlt
  have hn : |(n : R)| < 1 := by
    by_contra h
    rw [not_lt] at h
    have := mul_le_mul_of_nonneg_right h hstep.le
    linarith
  have hint : |n| < 1 := by exact_mod_cast hn
  have hzero : n = 0 := by
    rw [abs_lt] at hint
    omega
  rw [hzero]
  simp

theorem OnGrid.abs_le_iff {tolerance : R} (hx : OnGrid step x) (h0 : 0 ≤ tolerance)
    (hstep : tolerance < step) : |x| ≤ tolerance ↔ x = 0 := by
  constructor
  · intro hle
    exact hx.eq_zero (hle.trans_lt hstep)
  · rintro rfl
    rw [abs_zero]
    exact h0

end Grid

end Holdings
