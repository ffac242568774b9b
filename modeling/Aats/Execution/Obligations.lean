import Aats.Execution.OrderStateMachine

/-!
# Order obligations

`services/execution_engine/obligations.py`: the amount an order reserves, what its fills
consume of it and what is released when the order ends. The functions here only compute
the next obligation; writing it is the business of the store.
-/

namespace Aats.Execution

inductive ObligationStatus
  | active
  | partiallyConsumed
  | released
  | canceled
  | failed
  deriving DecidableEq, Repr, Inhabited

structure OrderObligation where
  obligationId : String := ""
  clientOrderId : String := ""
  symbol : String := ""
  reserveCurrency : String
  reservedAmount : ℚ
  consumedAmount : ℚ := 0
  releasedAmount : ℚ := 0
  consumedFillIds : List String := []
  blockedFillIds : List String := []
  status : ObligationStatus := .active
  productType : ProductType := .spot
  marginMode : MarginMode := .cash
  referencePrice : Option ℚ := none
  processingFailureReason : Option String := none
  processingFailureDetails : Option UnsupportedFeeCurrencyDetails := none
  deriving DecidableEq, Repr

def remainingObligationAmount (obligation : OrderObligation) : ℚ :=
  max (obligation.reservedAmount - obligation.consumedAmount - obligation.releasedAmount) 0

/-! ### Consumption -/

/-- `_fill_consumption_amount`: what a fill consumes of the reserve, or why its fee cannot be
valued. -/
def fillConsumptionAmount (fill : FillEvent) (obligation : OrderObligation) :
    Except UnsupportedFeeCurrencyDetails ℚ :=
  let currencies := resolveSymbolCurrencies fill.symbol
  match obligation.productType with
  | .spot =>
    if some obligation.reserveCurrency = currencies.2 then
      match fillFeeDeltaInQuote fill currencies.1 currencies.2 with
      | .error e => .error (unsupportedFeeCurrencyDetails fill currencies.1 currencies.2 e)
      | .ok feeDelta => .ok (max (fill.fillQty * fill.fillPrice + feeDelta) 0)
    else if some obligation.reserveCurrency = currencies.1 then
      let feeCurrency := resolvedFeeCurrency fill currencies.1 currencies.2
      let feeInReserve := if feeCurrency = currencies.1 then fill.feeAmount else 0
      .ok (max (fill.fillQty + feeInReserve) 0)
    else .ok 0
  | .derivatives => .ok (|fill.fillQty| * fill.fillPrice / max fill.targetLeverage 1)

def consumptionStatus (reserved consumed released : ℚ) : ObligationStatus :=
  if max (reserved - consumed - released) 0 ≤ epsilon12 then .released
  else if epsilon12 < consumed then .partiallyConsumed
  else .active

/-- The obligation with a fill noted whose fee cannot be valued. -/
def OrderObligation.block (obligation : OrderObligation) (fillId : String)
    (details : UnsupportedFeeCurrencyDetails) : OrderObligation :=
  { obligation with
    blockedFillIds := obligation.blockedFillIds ++ [fillId]
    processingFailureReason := some "unsupported_fee_currency"
    processingFailureDetails := some details }

def OrderObligation.consume (obligation : OrderObligation) (fillId : String) (amount : ℚ) :
    OrderObligation :=
  let consumedAmount := obligation.consumedAmount + amount
  { obligation with
    consumedAmount := consumedAmount
    consumedFillIds := obligation.consumedFillIds ++ [fillId]
    processingFailureReason := none
    processingFailureDetails := none
    status := consumptionStatus obligation.reservedAmount consumedAmount obligation.releasedAmount }

section fields

variable (o : OrderObligation) (id : String) (details : UnsupportedFeeCurrencyDetails) (amount : ℚ)

@[simp] theorem block_consumedFillIds : (o.block id details).consumedFillIds = o.consumedFillIds :=
  rfl

@[simp] theorem block_consumedAmount : (o.block id details).consumedAmount = o.consumedAmount := rfl

@[simp] theorem consume_consumedFillIds :
    (o.consume id amount).consumedFillIds = o.consumedFillIds ++ [id] := rfl

@[simp] theorem consume_consumedAmount :
    (o.consume id amount).consumedAmount = o.consumedAmount + amount := rfl

end fields

def applyFillToObligation (fill : FillEvent) (obligation : OrderObligation) : OrderObligation :=
  if fill.fillId ∈ obligation.consumedFillIds then obligation
  else if fill.fillId ∈ obligation.blockedFillIds then obligation
  else
    match fillConsumptionAmount fill obligation with
    | .error details => obligation.block fill.fillId details
    | .ok amount =>
      if amount ≤ epsilon12 then obligation else obligation.consume fill.fillId amount

theorem applyFillToObligation_cases (fill : FillEvent) (obligation : OrderObligation) :
    applyFillToObligation fill obligation = obligation ∨
    (∃ details, fillConsumptionAmount fill obligation = .error details ∧
      applyFillToObligation fill obligation = obligation.block fill.fillId details) ∨
    ∃ amount, fillConsumptionAmount fill obligation = .ok amount ∧ epsilon12 < amount ∧
      fill.fillId ∉ obligation.consumedFillIds ∧ fill.fillId ∉ obligation.blockedFillIds ∧
      applyFillToObligation fill obligation = obligation.consume fill.fillId amount := by
  unfold applyFillToObligation
  split
  · exact .inl rfl
  · next hc =>
    split
    · exact .inl rfl
    · next hb =>
      split
      · next details hd => exact .inr (.inl ⟨details, hd, rfl⟩)
      · next amount ha =>
        split
        · exact .inl rfl
        · next hlt => exact .inr (.inr ⟨amount, ha, not_le.mp hlt, hc, hb, rfl⟩)

/-! ### Finalization -/

def finalObligationStatus : OrderStatus → ObligationStatus
  | .canceled => .canceled
  | .filled => .released
  | _ => .failed

theorem finalObligationStatus_not_held (status : OrderStatus) :
    finalObligationStatus status ≠ .active ∧ finalObligationStatus status ≠ .partiallyConsumed := by
  cases status <;> decide

def applyFinalizationToObligation (orderState : OrderState) (obligation : Option OrderObligation) :
    Option OrderObligation :=
  if ¬ orderState.status.isTerminal then none
  else
    match obligation with
    | none => none
    | some obligation =>
      let remaining := remainingObligationAmount obligation
      if remaining ≤ epsilon12 ∧ (obligation.status = .released ∨ obligation.status = .canceled ∨
          obligation.status = .failed) then some obligation
      else
        some { obligation with
          releasedAmount := obligation.releasedAmount + max remaining 0
          status := finalObligationStatus orderState.status }

/-- The fills of a batch applied one after the other, each to the result of the one before:
the obligation after every fill. -/
def chainFills : Option OrderObligation → List FillEvent → List (Option OrderObligation)
  | _, [] => []
  | none, _ :: fills => none :: chainFills none fills
  | some obligation, fill :: fills =>
    let updated := applyFillToObligation fill obligation
    some updated :: chainFills (some updated) fills

def chainEnd : Option OrderObligation → List FillEvent → Option OrderObligation
  | obligation, [] => obligation
  | none, _ :: _ => none
  | some obligation, fill :: fills => chainEnd (some (applyFillToObligation fill obligation)) fills

/-- `preview_chained_fill_obligations_and_finalize`, from the persisted obligation. -/
def previewChainedFillObligationsAndFinalize (persisted : Option OrderObligation)
    (fills : List FillEvent) (orderState : OrderState) :
    List (Option OrderObligation) × Option OrderObligation :=
  (chainFills persisted fills, applyFinalizationToObligation orderState (chainEnd persisted fills))

/-! ### Settled obligations -/

/-- Nothing is held any more: at most the tolerance remains and the status is not one of
those that count as an active reservation. -/
def OrderObligation.Settled (obligation : OrderObligation) : Prop :=
  remainingObligationAmount obligation ≤ epsilon12 ∧ obligation.status ≠ .active ∧
    obligation.status ≠ .partiallyConsumed

instance (obligation : OrderObligation) : Decidable obligation.Settled :=
  inferInstanceAs (Decidable (_ ∧ _ ∧ _))

theorem remainingObligationAmount_consume_le (obligation : OrderObligation) (fillId : String)
    {amount : ℚ} (h : 0 ≤ amount) :
    remainingObligationAmount (obligation.consume fillId amount) ≤
      remainingObligationAmount obligation := by
  unfold remainingObligationAmount OrderObligation.consume
  apply max_le_max_right
  linarith

theorem settled_applyFillToObligation {obligation : OrderObligation} (fill : FillEvent)
    (h : obligation.Settled) : (applyFillToObligation fill obligation).Settled := by
  rcases applyFillToObligation_cases fill obligation with
    he | ⟨details, -, he⟩ | ⟨amount, -, hamount, -, -, he⟩
  · rw [he]
    exact h
  · rw [he]
    exact h
  · rw [he]
    have hpos : 0 ≤ amount := (epsilon12_pos.trans hamount).le
    have hrem : remainingObligationAmount (obligation.consume fill.fillId amount) ≤ epsilon12 :=
      (remainingObligationAmount_consume_le obligation fill.fillId hpos).trans h.1
    have hstatus : (obligation.consume fill.fillId amount).status = .released := if_pos hrem
    refine ⟨hrem, ?_, ?_⟩ <;> rw [hstatus] <;> decide

theorem settled_finalization {orderState : OrderState} {obligation : Option OrderObligation}
    {final : OrderObligation} (h : applyFinalizationToObligation orderState obligation = some final) :
    final.Settled := by
  unfold applyFinalizationToObligation at h
  split at h
  · cases h
  · cases obligation with
    | none => cases h
    | some obligation =>
      simp only at h
      split at h
      · next hdone =>
        injection h with h
        subst h
        refine ⟨hdone.1, ?_, ?_⟩ <;> rcases hdone.2 with hs | hs | hs <;> rw [hs] <;> decide
      · injection h with h
        subst h
        refine ⟨?_, (finalObligationStatus_not_held _).1, (finalObligationStatus_not_held _).2⟩
        -- what remained was released, so nothing remains
        have hrem : obligation.reservedAmount - obligation.consumedAmount -
            obligation.releasedAmount ≤ remainingObligationAmount obligation := le_max_left _ _
        have hle : obligation.reservedAmount - obligation.consumedAmount -
            (obligation.releasedAmount + max (remainingObligationAmount obligation) 0) ≤ 0 := by
          have := le_max_left (remainingObligationAmount obligation) 0
          linarith
        unfold remainingObligationAmount at hle ⊢
        rw [max_eq_right hle]
        exact epsilon12_pos.le

theorem finalization_eq_none {orderState : OrderState} {obligation : Option OrderObligation}
    (h : applyFinalizationToObligation orderState obligation = none) :
    orderState.status.isTerminal = false ∨ obligation = none := by
  by_contra hcon
  push Not at hcon
  obtain ⟨o, rfl⟩ := Option.ne_none_iff_exists'.mp hcon.2
  have ht : orderState.status.isTerminal = true := by simpa using hcon.1
  simp only [applyFinalizationToObligation, ht, not_true_eq_false, ↓reduceIte] at h
  split at h <;> cases h

theorem eq_none_of_chainEnd {start : Option OrderObligation} {fills : List FillEvent}
    (h : chainEnd start fills = none) : start = none := by
  induction fills generalizing start with
  | nil => exact h
  | cons fill fills ih =>
    cases start with
    | none => rfl
    | some obligation => cases ih h

theorem settled_of_mem_chainFills {start : Option OrderObligation} (h : ∀ o ∈ start, o.Settled)
    {fills : List FillEvent} {o : OrderObligation} (ho : some o ∈ chainFills start fills) :
    o.Settled := by
  induction fills generalizing start with
  | nil => simp [chainFills] at ho
  | cons fill fills ih =>
    cases start with
    | none =>
      simp only [chainFills, List.mem_cons, reduceCtorEq, false_or] at ho
      exact ih h ho
    | some obligation =>
      have hnext : (applyFillToObligation fill obligation).Settled :=
        settled_applyFillToObligation fill (h obligation rfl)
      simp only [chainFills, List.mem_cons, Option.some.injEq] at ho
      rcases ho with rfl | ho
      · exact hnext
      · refine ih ?_ ho
        intro o' ho'
        rw [Option.mem_some_iff] at ho'
        exact ho' ▸ hnext

end Aats.Execution
