import Aats.Execution.Obligations
import Aats.Lib.LastWriter

/-!
# The caches of obligations and order states

`services/execution_engine/obligation_cache.py` and `order_state_cache.py`: every process holds a
copy of the obligations and of the order states, fed by its own writes and by the events of the
others. The newest update of an order is to stand in all of them.

The caches compare `last_update_ts` alone. The obligation cache keeps what it has when two updates
carry the same time, and the order state cache takes what comes in.

## Main definitions
* `applyObligationLocally`, `applyOrderStateLocally` — the two `_apply_locally`.

## Main results
* `hot_state_caches_converge_iff` — **when the order of arrival does not matter**.
* `equal_timestamps_diverge` — two updates of one order with the same time.
-/

namespace Aats.Execution

open LastWriter

/-! ### The caches -/

structure CachedObligation extends OrderObligation where
  lastUpdateTs : Option Timestamp := none
  deriving DecidableEq, Repr

/-- `datetime.min`. -/
def datetimeMin : Timestamp := -62135596800 * 10 ^ 6

/-- `_compare_ts` of an obligation. -/
def obligationCompareTs (obligation : CachedObligation) : Timestamp :=
  obligation.lastUpdateTs.getD datetimeMin

/-- `_compare_ts` of an order state. -/
def orderStateCompareTs (order : OrderState) : Timestamp :=
  (order.lastUpdateTs.or order.submittedTs).getD datetimeMin

/-- `_latest` of the obligation cache. -/
abbrev ObligationCache := String → Option CachedObligation

/-- `_latest` of the order state cache. -/
abbrev OrderStateCache := String → Option OrderState

/-- `ObligationHotStateCache._apply_locally`: the cache, and whether the obligation is applied. -/
def applyObligationLocally (latest : ObligationCache) (obligation : CachedObligation) :
    ObligationCache × Bool :=
  match latest obligation.clientOrderId with
  | some existing =>
    if obligationCompareTs obligation ≤ obligationCompareTs existing then (latest, false)
    else (Function.update latest obligation.clientOrderId (some obligation), true)
  | none => (Function.update latest obligation.clientOrderId (some obligation), true)

/-- `OrderStateHotCache._apply_locally`: the cache, and whether the order state is applied. -/
def applyOrderStateLocally (latest : OrderStateCache) (order : OrderState) :
    OrderStateCache × Bool :=
  match latest order.clientOrderId with
  | some existing =>
    if orderStateCompareTs order < orderStateCompareTs existing then (latest, false)
    else if orderStateCompareTs order = orderStateCompareTs existing ∧ order = existing then
      (latest, false)
    else (Function.update latest order.clientOrderId (some order), true)
  | none => (Function.update latest order.clientOrderId (some order), true)

def receiveObligations (latest : ObligationCache) (updates : List CachedObligation) :
    ObligationCache :=
  updates.foldl (fun latest obligation => (applyObligationLocally latest obligation).1) latest

def receiveOrderStates (latest : OrderStateCache) (updates : List OrderState) : OrderStateCache :=
  updates.foldl (fun latest order => (applyOrderStateLocally latest order).1) latest

/-! ### The newest update stands -/

theorem applyObligationLocally_fst (latest : ObligationCache) (obligation : CachedObligation) :
    (applyObligationLocally latest obligation).1 =
      receive .keepHeld (fun o : CachedObligation => o.clientOrderId) obligationCompareTs latest
        obligation := by
  unfold applyObligationLocally receive settle
  cases hstored : latest obligation.clientOrderId with
  | none => rfl
  | some existing =>
    simp only
    split
    · next hle =>
      rw [if_neg (Tie.admits_keepHeld.not.mpr (not_lt.mpr hle)), ← hstored,
        Function.update_eq_self]
    · next hnot => rw [if_pos (Tie.admits_keepHeld.mpr (not_le.mp hnot))]

theorem applyOrderStateLocally_fst (latest : OrderStateCache) (order : OrderState) :
    (applyOrderStateLocally latest order).1 =
      receive .takeNew OrderState.clientOrderId orderStateCompareTs latest order := by
  unfold applyOrderStateLocally receive settle
  cases hstored : latest order.clientOrderId with
  | none => rfl
  | some existing =>
    simp only
    split
    · next hlt =>
      rw [if_neg (Tie.admits_takeNew.not.mpr (not_le.mpr hlt)), ← hstored,
        Function.update_eq_self]
    · next hnot =>
      rw [if_pos (Tie.admits_takeNew.mpr (not_lt.mp hnot))]
      split
      · next hsame =>
        obtain ⟨-, rfl⟩ := hsame
        rw [← hstored, Function.update_eq_self]
      · rfl

theorem receiveObligations_eq (latest : ObligationCache) (updates : List CachedObligation) :
    receiveObligations latest updates =
      receiveAll .keepHeld (fun o : CachedObligation => o.clientOrderId) obligationCompareTs latest
        updates := by
  unfold receiveObligations receiveAll
  simp only [applyObligationLocally_fst]

theorem receiveOrderStates_eq (latest : OrderStateCache) (updates : List OrderState) :
    receiveOrderStates latest updates =
      receiveAll .takeNew OrderState.clientOrderId orderStateCompareTs latest updates := by
  unfold receiveOrderStates receiveAll
  simp only [applyOrderStateLocally_fst]

/-- **The caches of two processes converge**, whatever order the updates reach them in, exactly if
no two different updates of one order are newest with the same time. Updates that are older than
what the caches started with do not count; for obligations those of the same age do not either. -/
theorem hot_state_caches_converge_iff (latest : ObligationCache)
    (updates : List CachedObligation) (latestOrders : OrderStateCache) (orders : List OrderState) :
    ((∀ first second : List CachedObligation, first.Perm updates → second.Perm updates →
        receiveObligations latest first = receiveObligations latest second) ↔
      Unambiguous .keepHeld (fun o : CachedObligation => o.clientOrderId) obligationCompareTs
        latest updates) ∧
    ((∀ first second : List OrderState, first.Perm orders → second.Perm orders →
        receiveOrderStates latestOrders first = receiveOrderStates latestOrders second) ↔
      Unambiguous .takeNew OrderState.clientOrderId orderStateCompareTs latestOrders orders) := by
  constructor
  · simp only [receiveObligations_eq]
    exact receiveAll_eq_iff
  · simp only [receiveOrderStates_eq]
    exact receiveAll_eq_iff

def obligationAt (consumed : ℚ) : CachedObligation where
  clientOrderId := "c1"
  reserveCurrency := "USDT"
  reservedAmount := 10
  consumedAmount := consumed
  lastUpdateTs := some 5

def orderStateAt (status : OrderStatus) : OrderState where
  clientOrderId := "c1"
  status := status
  requestedQty := 1
  remainingQty := 1
  lastUpdateTs := some 5

/-- In both caches the order of arrival decides which of two updates of the same time stands. -/
theorem equal_timestamps_diverge :
    receiveObligations (fun _ => none) [obligationAt 3, obligationAt 7] "c1" =
        some (obligationAt 3) ∧
      receiveObligations (fun _ => none) [obligationAt 7, obligationAt 3] "c1" =
        some (obligationAt 7) ∧
      receiveOrderStates (fun _ => none) [orderStateAt .submitted, orderStateAt .canceled] "c1" =
        some (orderStateAt .canceled) ∧
      receiveOrderStates (fun _ => none) [orderStateAt .canceled, orderStateAt .submitted] "c1" =
        some (orderStateAt .submitted) := by
  decide +kernel

end Aats.Execution
