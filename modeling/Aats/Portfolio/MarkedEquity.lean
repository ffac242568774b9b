import Mathlib.Algebra.BigOperators.Ring.List
import Aats.Portfolio.FifoAndAverage
import Aats.Portfolio.Snapshots

/-!
# Equity and the marked value of an account

The equity of a snapshot is put together from two books: a base currency with an open spot
position counts with the quantity of the position, any other currency with its balance. The two
agree as long as a position holds what was acquired of its currency. A fee paid in the base
currency leaves the balance and not the position, so that the equity counts it as if it were
still there, until the position is closed.

## Main definitions
* `markedValue` — every balance at its price, and the unrealized PnL of the derivatives.
* `AcquiredIsHeld` — the two agree wherever the equity looks at the position.

## Main results
* `equity_is_markedValue_iff` — **when the equity is the marked value at all prices**.
-/

namespace Aats.Portfolio

open Dict Holdings

/-! ### USDT-quoted instruments -/

/-- The symbol of a USDT-quoted instrument: a pair for spot, a pair and a kind for derivatives. -/
inductive UsdtSymbol (base : String) : ProductType → String → Prop
  | spot : UsdtSymbol base .spot (base ++ "-USDT")
  | derivatives (kind : String) (plain : ':' ∉ kind.toList) :
    UsdtSymbol base .derivatives (base ++ "-USDT-" ++ kind)

structure UsdtFill (base : String) (fill : FillEvent) : Prop where
  named : base ≠ ""
  notQuote : base ≠ "USDT"
  plain : '-' ∉ base.toList ∧ ':' ∉ base.toList
  symbol : UsdtSymbol base fill.productType fill.symbol
  fee : feeCurrencyOf fill = some base ∨ feeCurrencyOf fill = some "USDT"

/-- The currencies of a symbol that starts with a base currency and goes on with `-USDT`. -/
theorem resolve_usdt {base : String} (rest : String) (hnamed : base ≠ "") (hplain : '-' ∉ base.toList)
    (hrest : rest = "" ∨ ∃ kind, rest = "-" ++ kind) :
    resolveSymbolCurrencies (base ++ "-USDT" ++ rest) = (some base, some "USDT") := by
  have hnil : base.toList ≠ [] := by
    intro h
    exact hnamed (String.toList_eq_nil_iff.mp h)
  have hsplit : ∀ tail : List Char, (base.toList ++ '-' :: tail).splitOn '-' =
      base.toList :: tail.splitOn '-' := by
    intro tail
    rw [List.splitOn_eq_splitOnP, List.splitOn_eq_splitOnP]
    apply List.splitOnP_append_cons_of_forall_mem
    · intro c hc
      rw [beq_eq_false_iff_ne]
      rintro rfl
      exact hplain hc
    · exact beq_self_eq_true _
  have hquote : ∃ parts, ("USDT".toList ++ rest.toList).splitOn '-' = "USDT".toList :: parts := by
    rcases hrest with rfl | ⟨kind, rfl⟩
    · exact ⟨[], by decide⟩
    · refine ⟨kind.toList.splitOn '-', ?_⟩
      rw [String.toList_append, List.splitOn_eq_splitOnP, List.splitOn_eq_splitOnP]
      exact List.splitOnP_append_cons_of_forall_mem (by simp) '-' rfl _
  obtain ⟨parts, hparts⟩ := hquote
  have hlist : (base ++ "-USDT" ++ rest).toList = base.toList ++ '-' :: ("USDT".toList ++ rest.toList) := by
    rw [String.toList_append, String.toList_append, List.append_assoc]
    rfl
  unfold resolveSymbolCurrencies
  rw [hlist, if_pos (by simp), hsplit, hparts]
  have hfilter : (base.toList :: "USDT".toList :: parts).filter (· ≠ []) =
      base.toList :: "USDT".toList :: parts.filter (· ≠ []) := by
    rw [List.filter_cons_of_pos (by simpa using hnil), List.filter_cons_of_pos (by decide)]
  rw [hfilter]
  simp only [List.map_cons, String.ofList_toList]

section Fill

variable {base : String} {fill : FillEvent}

theorem UsdtFill.currencies (h : UsdtFill base fill) :
    resolveSymbolCurrencies fill.symbol = (some base, some "USDT") := by
  have hsymbol := h.symbol
  revert hsymbol
  generalize fill.productType = productType
  generalize fill.symbol = symbol
  intro hsymbol
  cases hsymbol with
  | spot =>
    have hresolve := resolve_usdt "" h.named h.plain.1 (.inl rfl)
    rwa [String.append_empty] at hresolve
  | derivatives kind plain =>
    have hresolve := resolve_usdt ("-" ++ kind) h.named h.plain.1 (.inr ⟨kind, rfl⟩)
    have hassoc : base ++ "-USDT-" ++ kind = base ++ "-USDT" ++ ("-" ++ kind) := by
      rw [String.append_assoc, String.append_assoc]
      congr 1
    rw [hassoc]
    exact hresolve

theorem UsdtFill.baseOf (h : UsdtFill base fill) : Portfolio.baseOf fill = some base := by
  rw [Portfolio.baseOf, h.currencies]

theorem UsdtFill.quoteOf (h : UsdtFill base fill) : Portfolio.quoteOf fill = some "USDT" := by
  rw [Portfolio.quoteOf, h.currencies]

theorem UsdtFill.feeSupported (h : UsdtFill base fill) : FeeSupported fill := by
  unfold FeeSupported
  rw [h.baseOf, h.quoteOf]
  have hfee := h.fee
  unfold feeCurrencyOf at hfee
  rw [h.baseOf, h.quoteOf] at hfee
  unfold fillFeeDeltaInQuote
  simp only [reduceCtorEq, and_self, if_false]
  split
  · exact ⟨_, rfl⟩
  · rcases hfee with hbase | hquote
    · rw [hbase]
      simp only [ne_eq, reduceCtorEq, not_false_eq_true, and_true, if_true]
      split <;> exact ⟨_, rfl⟩
    · rw [hquote]
      exact ⟨_, if_pos ⟨rfl, by simp⟩⟩

theorem UsdtFill.trackedBase (h : UsdtFill base fill) : Portfolio.trackedBase fill.symbol = base := by
  have hhead : ∀ tail : String, tail.toList.head? = some '-' →
      Portfolio.trackedBase (base ++ tail) = base := by
    intro tail htail
    obtain ⟨rest, hrest⟩ : ∃ rest, tail.toList = '-' :: rest := List.head?_eq_some_iff.mp htail
    have hall : ∀ c ∈ base.toList, decide (c ≠ '-') = true := by
      intro c hc
      rw [decide_eq_true_iff]
      rintro rfl
      exact h.plain.1 hc
    unfold Portfolio.trackedBase
    rw [String.toList_append, hrest, List.takeWhile_append_of_pos hall,
      List.takeWhile_cons_of_neg (by simp), List.append_nil, String.ofList_toList]
  have hsymbol := h.symbol
  revert hsymbol
  generalize fill.productType = productType
  generalize fill.symbol = symbol
  intro hsymbol
  cases hsymbol with
  | spot => exact hhead "-USDT" rfl
  | derivatives kind plain =>
    rw [String.append_assoc]
    apply hhead
    rw [String.toList_append]
    rfl

theorem UsdtFill.no_colon (h : UsdtFill base fill) : ':' ∉ fill.symbol.toList := by
  have hsymbol := h.symbol
  revert hsymbol
  generalize fill.productType = productType
  generalize fill.symbol = symbol
  intro hsymbol
  cases hsymbol with
  | spot =>
    rw [String.toList_append, List.mem_append]
    rintro (hc | hc)
    · exact h.plain.2 hc
    · revert hc
      decide
  | derivatives kind plain =>
    rw [String.toList_append, String.toList_append, List.mem_append, List.mem_append]
    rintro ((hc | hc) | hc)
    · exact h.plain.2 hc
    · revert hc
      decide
    · exact plain hc

end Fill

theorem positionKey_eq (fill : FillEvent) :
    ∃ suffix : String, positionKeyForFill fill = fill.symbol ++ suffix ∧
      (suffix = "" ∨ suffix.toList.head? = some ':') := by
  unfold positionKeyForFill buildPositionKey
  cases fill.productType with
  | spot =>
    cases fill.marginMode with
    | cash => exact ⟨"", by simp, .inl rfl⟩
    | cross => exact ⟨":spot:cross", rfl, .inr rfl⟩
    | isolated => exact ⟨":spot:isolated", rfl, .inr rfl⟩
  | derivatives =>
    simp only []
    split
    · exact ⟨":long", rfl, .inr rfl⟩
    · exact ⟨":short", rfl, .inr rfl⟩
    · exact ⟨"", by simp, .inl rfl⟩

theorem takeWhile_positionKey {fill : FillEvent} (h : ':' ∉ fill.symbol.toList) :
    (positionKeyForFill fill).toList.takeWhile (· ≠ ':') = fill.symbol.toList := by
  have hall : ∀ c ∈ fill.symbol.toList, decide (c ≠ ':') = true := by
    intro c hc
    rw [decide_eq_true_iff]
    rintro rfl
    exact h hc
  obtain ⟨suffix, hkey, hsuffix⟩ := positionKey_eq fill
  rw [hkey, String.toList_append, List.takeWhile_append_of_pos hall]
  rcases hsuffix with rfl | hhead
  · simp
  · obtain ⟨rest, hrest⟩ := List.head?_eq_some_iff.mp hhead
    rw [hrest, List.takeWhile_cons_of_neg (by simp), List.append_nil]

theorem UsdtFill.same_instrument {base other : String} {fill next : FillEvent}
    (h : UsdtFill base fill) (h' : UsdtFill other next)
    (hkey : positionKeyForFill fill = positionKeyForFill next) :
    fill.symbol = next.symbol ∧ fill.productType = next.productType ∧ base = other := by
  have hsymbol : fill.symbol = next.symbol := by
    apply String.toList_inj.mp
    rw [← takeWhile_positionKey h.no_colon, ← takeWhile_positionKey h'.no_colon, hkey]
  have hbase : base = other := by
    rw [← h.trackedBase, ← h'.trackedBase, hsymbol]
  refine ⟨hsymbol, ?_, hbase⟩
  -- a pair has no third part
  have hs := h.symbol
  have hs' := h'.symbol
  rw [← hsymbol, ← hbase] at hs'
  revert hs hs'
  generalize fill.productType = productType
  generalize next.productType = productType'
  generalize fill.symbol = symbol
  intro hs hs'
  have hpair : ∀ kind : String, base ++ "-USDT" ≠ base ++ "-USDT-" ++ kind := by
    intro kind heq
    have hlength := congrArg String.length heq
    simp only [String.length_append] at hlength
    have h5 : "-USDT".length = 5 := by decide
    have h6 : "-USDT-".length = 6 := by decide
    omega
  cases hs with
  | spot =>
    generalize hsym : base ++ "-USDT" = symbol at hs'
    cases hs' with
    | spot => rfl
    | derivatives kind => exact absurd hsym (hpair kind)
  | derivatives kind =>
    generalize hsym : base ++ "-USDT-" ++ kind = symbol at hs'
    cases hs' with
    | spot => exact absurd hsym.symm (hpair kind)
    | derivatives kind' => rfl

/-! ### Positions and balances in terms of the fills -/

/-- One quantity after another, where what counts as zero is dropped. -/
def flatNet (quantities : List ℚ) : ℚ :=
  quantities.foldl (fun held x => if isEffectivelyZero (held + x) then 0 else held + x) 0

def heldUnder (key : String) (fills : List FillEvent) : ℚ :=
  flatNet ((fills.filter (fun fill => positionKeyForFill fill = key)).map signedQty)

theorem heldUnder_concat (key : String) (fills : List FillEvent) (fill : FillEvent) :
    heldUnder key (fills ++ [fill]) =
      if positionKeyForFill fill = key then
        if isEffectivelyZero (heldUnder key fills + signedQty fill) then 0
        else heldUnder key fills + signedQty fill
      else heldUnder key fills := by
  unfold heldUnder flatNet
  rw [List.filter_append]
  split
  · next h => simp [h]
  · next h => simp [h]

structure Holds (state : PortfolioState) (fills : List FillEvent) : Prop where
  quantity : ∀ key, state.quantityOf key = heldUnder key fills
  record : ∀ key record, state.positions.lookup key = some record → record.quantity ≠ 0 ∧
    ∃ fill ∈ fills, positionKeyForFill fill = key ∧ record.symbol = fill.symbol ∧
      record.productType = fill.productType

theorem Holds.bookFill {state : PortfolioState} {fills : List FillEvent} (h : Holds state fills)
    (fill : FillEvent) (fee : ℚ) : Holds (state.bookFill fill fee).2 (fills ++ [fill]) := by
  have hbooked : (state.booking fill).1 =
      heldUnder (positionKeyForFill fill) fills + signedQty fill := by
    unfold PortfolioState.booking
    rw [bookQuantity_quantity, h.quantity]
  constructor
  · intro key
    rw [heldUnder_concat]
    by_cases hkey : positionKeyForFill fill = key
    · subst hkey
      rw [if_pos rfl, ← hbooked]
      exact PortfolioState.quantityOf_bookFill_self
    · rw [if_neg hkey, ← h.quantity]
      exact PortfolioState.quantityOf_bookFill_ne (Ne.symm hkey)
  · intro key record hrecord
    by_cases hkey : positionKeyForFill fill = key
    · subst hkey
      rw [PortfolioState.lookup_bookFill_self] at hrecord
      split at hrecord
      · cases hrecord
      · next hne =>
        cases hrecord
        refine ⟨?_, fill, List.mem_append_right _ (List.mem_singleton_self _), rfl, rfl, rfl⟩
        intro hzero
        apply hne
        show isEffectivelyZero (state.booking fill).1 = true
        have hq : (state.booking fill).1 = 0 := hzero
        rw [hq, isEffectivelyZero_zero]
    · rw [PortfolioState.lookup_bookFill_ne (Ne.symm hkey)] at hrecord
      obtain ⟨hne, other, hother, hfacts⟩ := h.record key record hrecord
      exact ⟨hne, other, List.mem_append_left _ hother, hfacts⟩

/-- What fills acquire of a currency in spot trades, less the fees paid in it. -/
def netAcquired (fills : List FillEvent) (currency : String) : ℚ :=
  (fills.map fun fill => spotFlow fill currency - feeFlow fill currency).sum

section Book

variable (start : Balances) {fills : List FillEvent}

theorem holds_bookAll (fills : List FillEvent) :
    Holds (bookAll start fills).state ((bookAll start fills).effects.map Prod.fst) := by
  induction fills using List.reverseRecOn with
  | nil =>
    constructor
    · intro key
      rfl
    · intro key record h
      cases h
  | append_singleton fills fill ih =>
    rw [bookAll_concat]
    rcases (bookAll start fills).apply_cases fill with ⟨hsame, -⟩ | ⟨-, fee, -, hbook⟩
    · rw [hsame]
      exact ih
    · rw [hbook]
      simp only [List.map_append, List.map_singleton]
      exact ih.bookFill fill fee

theorem balance_bookAll (currency : String) (fills : List FillEvent)
    (h : ∀ fill ∈ fills, Portfolio.quoteOf fill ≠ some currency) :
    (bookAll start fills).state.balances.balance currency = start.balance currency +
      netAcquired ((bookAll start fills).effects.map Prod.fst) currency := by
  induction fills using List.reverseRecOn with
  | nil => exact (add_zero _).symm
  | append_singleton fills fill ih =>
    have hrest := ih fun other hmem => h other (List.mem_append_left _ hmem)
    have hquote := h fill (List.mem_append_right _ (List.mem_singleton_self _))
    rw [bookAll_concat]
    rcases (bookAll start fills).apply_cases fill with ⟨hsame, -⟩ | ⟨-, fee, -, hbook⟩
    · rw [hsame]
      exact hrest
    · rw [hbook]
      show ((bookAll start fills).state.bookFill fill fee).2.balances.balance currency = _
      rw [PortfolioState.balance_bookFill, hrest]
      have hpnl : pnlFlow fill (bookedPnl ((bookAll start fills).state.booking fill).2.2) currency =
          0 := if_neg fun hp => hquote hp.2
      rw [hpnl]
      unfold netAcquired
      simp only [List.map_append, List.map_singleton, List.sum_append, List.sum_singleton]
      ring

end Book

/-! ### What positions hold of a currency -/

/-- A spot fill of a pair with USDT, whose position key is that of the pair in a margin mode. -/
def pairFill (base : String) (marginMode : MarginMode) : FillEvent :=
  { fillId := "", symbol := base ++ "-USDT", side := .buy, fillQty := 0, fillPrice := 0,
    feeAmount := 0, feeCurrency := some "USDT", marginMode := marginMode }

def spotKey (base : String) (marginMode : MarginMode) : String :=
  positionKeyForFill (pairFill base marginMode)

/-- The quantity of a currency in the spot positions that fills leave. -/
def heldSpot (fills : List FillEvent) (base : String) : ℚ :=
  heldUnder (spotKey base .cash) fills + heldUnder (spotKey base .cross) fills +
    heldUnder (spotKey base .isolated) fills

def OpenSpot (fills : List FillEvent) (base : String) : Prop :=
  ∃ marginMode, heldUnder (spotKey base marginMode) fills ≠ 0

/-- The position looks at a currency: it is a spot position of its pair. -/
def tracks (base : String) (record : PositionRecord) : Bool :=
  decide (record.productType ≠ .derivatives ∧ trackedBase record.symbol = base)

/-- The quantity of a currency in the spot positions of a state. -/
def heldOf (state : PortfolioState) (base : String) : ℚ :=
  (((records state).filter (tracks base)).map (·.quantity)).sum

theorem usdtFill_pairFill {base : String} {fill : FillEvent} (h : UsdtFill base fill)
    (marginMode : MarginMode) : UsdtFill base (pairFill base marginMode) :=
  ⟨h.named, h.notQuote, h.plain, .spot, .inr rfl⟩

theorem length_spotKey (base : String) :
    (spotKey base .cash).length = base.length + 5 ∧
    (spotKey base .cross).length = base.length + 16 ∧
    (spotKey base .isolated).length = base.length + 19 := by
  refine ⟨?_, ?_, ?_⟩
  · show (base ++ "-USDT").length = _
    rw [String.length_append]
    rfl
  · show ((base ++ "-USDT") ++ ":spot:cross").length = _
    rw [String.length_append, String.length_append]
    rfl
  · show ((base ++ "-USDT") ++ ":spot:isolated").length = _
    rw [String.length_append, String.length_append]
    rfl

section Account

variable {state : PortfolioState} {fills : List FillEvent}

theorem spotKey_of_tracks (h : Holds state fills) (husdt : ∀ fill ∈ fills, ∃ base, UsdtFill base fill)
    {base key : String} {record : PositionRecord}
    (hrecord : state.positions.lookup key = some record) (htracks : tracks base record = true) :
    (∃ marginMode, key = spotKey base marginMode) ∧ ∃ fill ∈ fills, UsdtFill base fill ∧
      record.symbol = base ++ "-USDT" := by
  obtain ⟨-, fill, hmem, hkey, hsymbol, htype⟩ := h.record key record hrecord
  obtain ⟨other, hfill⟩ := husdt fill hmem
  obtain ⟨hspot, hbase⟩ := of_decide_eq_true htracks
  rw [hsymbol, hfill.trackedBase] at hbase
  subst hbase
  have hs := hfill.symbol
  rw [htype] at hspot
  cases hp : fill.productType with
  | derivatives => exact absurd hp hspot
  | spot =>
    rw [hp] at hs
    generalize hsym : fill.symbol = symbol at hs
    cases hs
    refine ⟨⟨fill.marginMode, ?_⟩, fill, hmem, hfill, by rw [hsymbol, hsym]⟩
    rw [← hkey]
    unfold spotKey positionKeyForFill buildPositionKey
    rw [hp, hsym]
    rfl

theorem tracks_spotKey (h : Holds state fills) (husdt : ∀ fill ∈ fills, ∃ base, UsdtFill base fill)
    {base : String} {fill : FillEvent} (hbase : UsdtFill base fill) {marginMode : MarginMode}
    {record : PositionRecord}
    (hrecord : state.positions.lookup (spotKey base marginMode) = some record) :
    tracks base record = true := by
  obtain ⟨-, other, hmem, hkey, hsymbol, htype⟩ := h.record _ record hrecord
  obtain ⟨name, hother⟩ := husdt other hmem
  obtain ⟨-, hproduct, rfl⟩ := hother.same_instrument (usdtFill_pairFill hbase marginMode) hkey
  unfold tracks
  rw [decide_eq_true_iff, htype, hproduct, hsymbol]
  exact ⟨by simp [pairFill], hother.trackedBase⟩

theorem heldOf_eq (h : Holds state fills) (husdt : ∀ fill ∈ fills, ∃ base, UsdtFill base fill)
    {base : String} {fill : FillEvent} (hbase : UsdtFill base fill) :
    heldOf state base = heldSpot fills base := by
  have hlist : heldOf state base = (state.positions.entries.map fun entry =>
      if tracks base entry.2 then entry.2.quantity else 0).sum := by
    unfold heldOf records
    induction state.positions.entries with
    | nil => rfl
    | cons entry entries ih =>
      rw [List.map_cons, List.map_cons, List.sum_cons, ← ih]
      by_cases ht : tracks base entry.2 = true
      · rw [List.filter_cons_of_pos ht, if_pos ht, List.map_cons, List.sum_cons]
      · rw [List.filter_cons_of_neg ht, if_neg ht, zero_add]
  -- a currency is held under three keys, one for each margin mode
  have hkeys : (state.positions.entries.map fun entry =>
      if tracks base entry.2 then entry.2.quantity else 0).sum =
        ∑ key ∈ {spotKey base .cash, spotKey base .cross, spotKey base .isolated},
          ((state.positions.lookup key).map fun record =>
            if tracks base record then record.quantity else 0).getD 0 := by
    refine sum_entries state.positions (fun _ record => if tracks base record then record.quantity else 0)
      _ ?_
    intro key record hrecord hne
    have ht : tracks base record = true := by
      by_contra hnot
      exact hne (if_neg hnot)
    obtain ⟨⟨marginMode, rfl⟩, -⟩ := spotKey_of_tracks h husdt hrecord ht
    cases marginMode <;> simp
  have hunder : ∀ marginMode, ((state.positions.lookup (spotKey base marginMode)).map fun record =>
      if tracks base record then record.quantity else 0).getD 0 =
        heldUnder (spotKey base marginMode) fills := by
    intro marginMode
    rw [← h.quantity]
    unfold PortfolioState.quantityOf
    cases hrecord : state.positions.lookup (spotKey base marginMode) with
    | none => rfl
    | some record =>
      show (if tracks base record = true then record.quantity else 0) = record.quantity
      rw [if_pos (tracks_spotKey h husdt hbase hrecord)]
  -- the three keys differ in their length
  obtain ⟨hcash, hcross, hisolated⟩ := length_spotKey base
  have hne : ∀ {a b : String}, a.length ≠ b.length → a ≠ b := fun hl heq => hl (heq ▸ rfl)
  rw [hlist, hkeys, Finset.sum_insert, Finset.sum_insert, Finset.sum_singleton, hunder, hunder,
    hunder, heldSpot, add_assoc]
  · rw [Finset.mem_singleton]
    exact hne (by omega)
  · rw [Finset.mem_insert, Finset.mem_singleton, not_or]
    exact ⟨hne (by omega), hne (by omega)⟩

theorem exists_tracks_iff (h : Holds state fills) (husdt : ∀ fill ∈ fills, ∃ base, UsdtFill base fill)
    {base : String} {fill : FillEvent} (hbase : UsdtFill base fill) :
    (∃ record ∈ records state, tracks base record = true) ↔ OpenSpot fills base := by
  constructor
  · rintro ⟨record, hmem, ht⟩
    obtain ⟨entry, hentry, rfl⟩ := List.mem_map.mp hmem
    have hrecord : state.positions.lookup entry.1 = some entry.2 := AList.mem_lookup_iff.mpr hentry
    obtain ⟨⟨marginMode, hkey⟩, -⟩ := spotKey_of_tracks h husdt hrecord ht
    refine ⟨marginMode, ?_⟩
    rw [← hkey, ← h.quantity]
    unfold PortfolioState.quantityOf
    rw [hrecord]
    exact (h.record _ _ hrecord).1
  · rintro ⟨marginMode, hne⟩
    rw [← h.quantity] at hne
    unfold PortfolioState.quantityOf at hne
    cases hrecord : state.positions.lookup (spotKey base marginMode) with
    | none =>
      rw [hrecord] at hne
      exact absurd rfl hne
    | some record =>
      refine ⟨record, ?_, tracks_spotKey h husdt hbase hrecord⟩
      exact List.mem_map.mpr ⟨⟨_, record⟩, AList.mem_lookup_iff.mp hrecord, rfl⟩

end Account

/-! ### The equity and the marked value -/

def currencies (fills : List FillEvent) : Finset String :=
  (fills.filterMap Portfolio.baseOf).toFinset

/-- The marked value of an account: every balance at its price in USDT, and the unrealized PnL of
the derivatives. -/
def markedValue (prices : PriceProvider) (state : PortfolioState) : ℚ :=
  (state.balances.entries.map fun entry =>
    entry.2 * if entry.1 = "USDT" then 1 else prices (entry.1 ++ "-USDT")).sum +
  (((records state).filter (·.productType = .derivatives)).map (recordUnrealized prices)).sum

def countedOf (state : PortfolioState) (currency : String) : ℚ :=
  if ∃ record ∈ records state, tracks currency record = true then heldOf state currency
  else if isEffectivelyZero (state.balances.balance currency) then 0
  else state.balances.balance currency

theorem mem_currencies {fills : List FillEvent} {currency : String} :
    currency ∈ currencies fills ↔ ∃ fill ∈ fills, Portfolio.baseOf fill = some currency := by
  unfold currencies
  rw [List.mem_toFinset, List.mem_filterMap]

theorem netAcquired_eq_zero {fills : List FillEvent} {currency : String}
    (husdt : ∀ fill ∈ fills, ∃ base, UsdtFill base fill) (hquote : currency ≠ "USDT")
    (h : currency ∉ currencies fills) : netAcquired fills currency = 0 := by
  apply List.sum_eq_zero
  intro amount hamount
  obtain ⟨fill, hmem, rfl⟩ := List.mem_map.mp hamount
  obtain ⟨base, hfill⟩ := husdt fill hmem
  have hbase : Portfolio.baseOf fill ≠ some currency := fun heq =>
    h (mem_currencies.mpr ⟨fill, hmem, heq⟩)
  have hother : (some "USDT" : Option String) ≠ some currency := fun heq =>
    hquote (Option.some.inj heq).symm
  have hspot : spotFlow fill currency = 0 := by
    unfold spotFlow
    cases fill.productType with
    | derivatives => rfl
    | spot =>
      simp only []
      rw [hfill.quoteOf, if_neg hother, if_neg hbase, add_zero]
  have hfee : feeFlow fill currency = 0 := by
    unfold feeFlow
    apply if_neg
    rcases hfill.fee with hfee | hfee
    · rw [hfee, ← hfill.baseOf]
      exact hbase
    · rw [hfee]
      exact hother
  rw [hspot, hfee, sub_zero]

section Account

variable {state : PortfolioState} {fills : List FillEvent} {prices : PriceProvider}

theorem sum_notional (h : Holds state fills) (husdt : ∀ fill ∈ fills, ∃ base, UsdtFill base fill)
    (prices : PriceProvider) :
    (((records state).filter (·.productType ≠ .derivatives)).map (recordNotional prices)).sum =
      ∑ currency ∈ currencies fills, prices (currency ++ "-USDT") * heldOf state currency := by
  rw [sum_by_key (fun record : PositionRecord => trackedBase record.symbol) (recordNotional prices)
    (currencies fills)]
  · apply Finset.sum_congr rfl
    intro currency _
    have hfilter : ((records state).filter (·.productType ≠ .derivatives)).filter
        (fun record => trackedBase record.symbol = currency) =
          (records state).filter (tracks currency) := by
      rw [List.filter_filter]
      apply List.filter_congr
      intro record _
      unfold tracks
      rw [← Bool.decide_and]
      exact decide_eq_decide.mpr and_comm
    rw [hfilter, heldOf, ← List.sum_map_mul_left]
    apply congrArg List.sum
    apply List.map_congr_left
    intro record hmem
    obtain ⟨hrecord, ht⟩ := List.mem_filter.mp hmem
    obtain ⟨entry, hentry, rfl⟩ := List.mem_map.mp hrecord
    obtain ⟨-, -, -, -, hsymbol⟩ :=
      spotKey_of_tracks h husdt (AList.mem_lookup_iff.mpr hentry) ht
    unfold recordNotional
    rw [hsymbol, mul_comm]
  · intro record hmem
    obtain ⟨hrecord, ht⟩ := List.mem_filter.mp hmem
    obtain ⟨entry, hentry, rfl⟩ := List.mem_map.mp hrecord
    have htracks : tracks (trackedBase entry.2.symbol) entry.2 = true :=
      decide_eq_true ⟨of_decide_eq_true ht, rfl⟩
    obtain ⟨-, fill, hfill, hbase, -⟩ :=
      spotKey_of_tracks h husdt (AList.mem_lookup_iff.mpr hentry) htracks
    exact mem_currencies.mpr ⟨fill, hfill, hbase.baseOf⟩

theorem otherAssetEquity_eq (hquote : "USDT" ∉ currencies fills)
    (hnone : ∀ currency, currency ≠ "USDT" → currency ∉ currencies fills →
      state.balances.balance currency = 0) (hprices : ∀ symbol, 0 < prices symbol)
    (hnamed : "" ∉ currencies fills) :
    otherAssetEquity prices state = ∑ currency ∈ currencies fills, prices (currency ++ "-USDT") *
      if ∃ record ∈ records state, tracks currency record = true then 0
      else if isEffectivelyZero (state.balances.balance currency) then 0
      else state.balances.balance currency := by
  have htracked : ∀ currency ∈ currencies fills,
      currency ∈ (((records state).filter (·.productType ≠ .derivatives)).map
        (fun record => trackedBase record.symbol)).filter (· ≠ "") ↔
      ∃ record ∈ records state, tracks currency record = true := by
    intro currency hmem
    have hne : currency ≠ "" := fun heq => hnamed (heq ▸ hmem)
    simp only [List.mem_filter, List.mem_map, decide_eq_true_iff, tracks]
    constructor
    · rintro ⟨⟨record, ⟨hrecord, hspot⟩, hbase⟩, -⟩
      exact ⟨record, hrecord, hspot, hbase⟩
    · rintro ⟨record, hrecord, hspot, hbase⟩
      exact ⟨⟨record, ⟨hrecord, hspot⟩, hbase⟩, hne⟩
  unfold otherAssetEquity
  simp only []
  rw [sum_entries state.balances (fun currency balance =>
    if currency = "USDT" ∨ currency ∈ (((records state).filter (·.productType ≠ .derivatives)).map
      (fun record => trackedBase record.symbol)).filter (· ≠ "") ∨ isEffectivelyZero balance = true
    then 0
    else if 0 < prices (currency ++ "-USDT") then balance * prices (currency ++ "-USDT") else 0)
    (currencies fills)]
  · apply Finset.sum_congr rfl
    intro currency hmem
    have hne : currency ≠ "USDT" := fun heq => hquote (heq ▸ hmem)
    have hbalance : state.balances.balance currency =
        (state.balances.lookup currency).getD 0 := rfl
    rw [hbalance]
    cases hlookup : state.balances.lookup currency with
    | none =>
      simp only [Option.map_none, Option.getD_none, isEffectivelyZero_zero, ite_self, mul_zero]
    | some balance =>
      simp only [Option.map_some, Option.getD_some, htracked currency hmem, hne, false_or,
        hprices, if_true]
      by_cases htrack : ∃ record ∈ records state, tracks currency record = true
      · rw [if_pos (.inl htrack), if_pos htrack, mul_zero]
      · by_cases hzero : isEffectivelyZero balance = true
        · rw [if_pos (.inr hzero), if_neg htrack, if_pos hzero, mul_zero]
        · rw [if_neg (not_or.mpr ⟨htrack, hzero⟩), if_neg htrack, if_neg hzero, mul_comm]
  · -- what no fill trades has a balance of zero, and is not counted
    intro currency balance hlookup hne
    by_contra hnot
    apply hne
    by_cases husdt : currency = "USDT"
    · exact if_pos (.inl husdt)
    · have hzero := hnone currency husdt hnot
      have hbalance : balance = 0 := by
        rw [← hzero, Balances.balance, hlookup]
        rfl
      exact if_pos (.inr (.inr (hbalance ▸ isEffectivelyZero_zero)))

theorem markedValue_eq (hquote : "USDT" ∉ currencies fills)
    (hnone : ∀ currency, currency ≠ "USDT" → currency ∉ currencies fills →
      state.balances.balance currency = 0) (prices : PriceProvider) :
    markedValue prices state = state.balances.balance "USDT" +
      ∑ currency ∈ currencies fills,
        prices (currency ++ "-USDT") * state.balances.balance currency +
      (((records state).filter (·.productType = .derivatives)).map (recordUnrealized prices)).sum := by
  have hvalue : ∀ currency price, ((state.balances.lookup currency).map fun balance =>
      balance * price).getD 0 = price * state.balances.balance currency := by
    intro currency price
    unfold Balances.balance
    cases state.balances.lookup currency with
    | none => exact (mul_zero price).symm
    | some balance => exact mul_comm balance price
  unfold markedValue
  rw [sum_entries state.balances (fun currency balance =>
    balance * if currency = "USDT" then 1 else prices (currency ++ "-USDT"))
    (insert "USDT" (currencies fills)), Finset.sum_insert hquote, hvalue, if_pos rfl, one_mul]
  · congr 2
    apply Finset.sum_congr rfl
    intro currency hmem
    have hne : currency ≠ "USDT" := fun heq => hquote (heq ▸ hmem)
    rw [hvalue, if_neg hne]
  · intro currency balance hlookup hne
    rw [Finset.mem_insert]
    by_contra hnot
    obtain ⟨husdt, hmem⟩ := not_or.mp hnot
    have hzero := hnone currency husdt hmem
    apply hne
    have hbalance : balance = 0 := by
      rw [← hzero, Balances.balance, hlookup]
      rfl
    rw [hbalance, zero_mul]

theorem equity_eq_markedValue_add (h : Holds state fills)
    (husdt : ∀ fill ∈ fills, ∃ base, UsdtFill base fill)
    (hnone : ∀ currency, currency ≠ "USDT" → currency ∉ currencies fills →
      state.balances.balance currency = 0) (hprices : ∀ symbol, 0 < prices symbol) :
    totalEquityOf prices state = markedValue prices state + ∑ currency ∈ currencies fills,
      prices (currency ++ "-USDT") *
        (countedOf state currency - state.balances.balance currency) := by
  have hbase : ∀ currency ∈ currencies fills, currency ≠ "USDT" ∧ currency ≠ "" := by
    intro currency hmem
    obtain ⟨fill, hfill, hof⟩ := mem_currencies.mp hmem
    obtain ⟨base, hnamed⟩ := husdt fill hfill
    have heq : base = currency := Option.some.inj (hnamed.baseOf.symm.trans hof)
    exact heq ▸ ⟨hnamed.notQuote, hnamed.named⟩
  have hquote : "USDT" ∉ currencies fills := fun hmem => (hbase _ hmem).1 rfl
  have hnamed : "" ∉ currencies fills := fun hmem => (hbase _ hmem).2 rfl
  -- an untracked currency is held in no position
  have hcounted : ∀ currency, heldOf state currency +
      (if ∃ record ∈ records state, tracks currency record = true then 0
        else if isEffectivelyZero (state.balances.balance currency) then 0
        else state.balances.balance currency) = countedOf state currency := by
    intro currency
    unfold countedOf
    split
    · rw [add_zero]
    · next hnot =>
      have hempty : (records state).filter (tracks currency) = [] := by
        rw [List.filter_eq_nil_iff]
        exact fun record hmem ht => hnot ⟨record, hmem, ht⟩
      rw [heldOf, hempty, List.map_nil, List.sum_nil, zero_add]
  unfold totalEquityOf
  rw [sum_notional h husdt, otherAssetEquity_eq hquote hnone hprices hnamed,
    markedValue_eq hquote hnone]
  have hsum : ∑ currency ∈ currencies fills, prices (currency ++ "-USDT") * heldOf state currency +
      ∑ currency ∈ currencies fills, prices (currency ++ "-USDT") *
        (if ∃ record ∈ records state, tracks currency record = true then 0
          else if isEffectivelyZero (state.balances.balance currency) then 0
          else state.balances.balance currency) =
      ∑ currency ∈ currencies fills,
        prices (currency ++ "-USDT") * state.balances.balance currency +
      ∑ currency ∈ currencies fills, prices (currency ++ "-USDT") *
        (countedOf state currency - state.balances.balance currency) := by
    rw [← Finset.sum_add_distrib, ← Finset.sum_add_distrib]
    apply Finset.sum_congr rfl
    intro currency _
    rw [← hcounted currency]
    ring
  linear_combination hsum

end Account

/-- Positions hold what fills acquired: of every currency with an open spot position the position
has the net amount acquired less the fees paid in the currency, and of every other currency no
amount is left that is too small to be counted. -/
def AcquiredIsHeld (fills : List FillEvent) : Prop :=
  ∀ currency ∈ currencies fills,
    (OpenSpot fills currency → heldSpot fills currency = netAcquired fills currency) ∧
    (¬ OpenSpot fills currency → isEffectivelyZero (netAcquired fills currency) = true →
      netAcquired fills currency = 0)

def portfolioAfter (initial : ℚ) (fills : List FillEvent) : PortfolioState :=
  (bookAll ((∅ : Balances).insert "USDT" initial) fills).state

theorem countedOf_eq_balance_iff {state : PortfolioState} {fills : List FillEvent}
    (h : Holds state fills) (husdt : ∀ fill ∈ fills, ∃ base, UsdtFill base fill) {base : String}
    {fill : FillEvent} (hbase : UsdtFill base fill)
    (hbalance : state.balances.balance base = netAcquired fills base) :
    countedOf state base = state.balances.balance base ↔
      (OpenSpot fills base → heldSpot fills base = netAcquired fills base) ∧
      (¬ OpenSpot fills base → isEffectivelyZero (netAcquired fills base) = true →
        netAcquired fills base = 0) := by
  unfold countedOf
  rw [hbalance]
  by_cases hopen : OpenSpot fills base
  · have htracked := (exists_tracks_iff h husdt hbase).mpr hopen
    rw [if_pos htracked, heldOf_eq h husdt hbase]
    exact ⟨fun heq => ⟨fun _ => heq, fun hnot => absurd hopen hnot⟩, fun h => h.1 hopen⟩
  · have huntracked : ¬ ∃ record ∈ records state, tracks base record = true :=
      fun hex => hopen ((exists_tracks_iff h husdt hbase).mp hex)
    rw [if_neg huntracked]
    by_cases hzero : isEffectivelyZero (netAcquired fills base) = true
    · rw [if_pos hzero]
      exact ⟨fun heq => ⟨fun h => absurd h hopen, fun _ _ => heq.symm⟩,
        fun h => (h.2 hopen hzero).symm⟩
    · rw [if_neg hzero]
      exact ⟨fun _ => ⟨fun h => absurd h hopen, fun _ h => absurd h hzero⟩, fun _ => rfl⟩

section After

variable (initial : ℚ) {fills : List FillEvent} (hnodup : (fills.map (·.fillId)).Nodup)
  (husdt : ∀ fill ∈ fills, ∃ base, UsdtFill base fill)

include hnodup husdt

theorem effects_bookAll (start : Balances) : (bookAll start fills).effects.map Prod.fst = fills := by
  refine (bookAll_distinct start hnodup ?_).1
  intro fill hmem
  obtain ⟨base, hfill⟩ := husdt fill hmem
  exact hfill.feeSupported

theorem holds_portfolioAfter : Holds (portfolioAfter initial fills) fills := by
  have hall := holds_bookAll ((∅ : Balances).insert "USDT" initial) fills
  rwa [effects_bookAll hnodup husdt] at hall

theorem balance_portfolioAfter {currency : String} (hne : currency ≠ "USDT") :
    (portfolioAfter initial fills).balances.balance currency = netAcquired fills currency := by
  have hquote : ∀ fill ∈ fills, Portfolio.quoteOf fill ≠ some currency := by
    intro fill hmem heq
    obtain ⟨base, hfill⟩ := husdt fill hmem
    rw [hfill.quoteOf] at heq
    exact hne (Option.some.inj heq).symm
  have hbook := balance_bookAll ((∅ : Balances).insert "USDT" initial) currency fills hquote
  rw [effects_bookAll hnodup husdt, Balances.balance_insert, if_neg (Ne.symm hne)] at hbook
  exact hbook.trans (zero_add _)

end After

/-- **When the equity is the marked value**, whatever the prices. -/
theorem equity_is_markedValue_iff (initial : ℚ) (fills : List FillEvent)
    (hnodup : (fills.map (·.fillId)).Nodup)
    (husdt : ∀ fill ∈ fills, ∃ base, UsdtFill base fill) :
    (∀ prices : PriceProvider, (∀ symbol, 0 < prices symbol) →
      totalEquityOf prices (portfolioAfter initial fills) =
        markedValue prices (portfolioAfter initial fills)) ↔ AcquiredIsHeld fills := by
  have hholds := holds_portfolioAfter initial hnodup husdt
  have hnone : ∀ currency, currency ≠ "USDT" → currency ∉ currencies fills →
      (portfolioAfter initial fills).balances.balance currency = 0 := by
    intro currency hne hmem
    rw [balance_portfolioAfter initial hnodup husdt hne, netAcquired_eq_zero husdt hne hmem]
  have hdiff : (∀ prices : PriceProvider, (∀ symbol, 0 < prices symbol) →
      totalEquityOf prices (portfolioAfter initial fills) =
        markedValue prices (portfolioAfter initial fills)) ↔
      ∀ prices : PriceProvider, (∀ symbol, 0 < prices symbol) →
        ∑ currency ∈ currencies fills, prices (currency ++ "-USDT") *
          (countedOf (portfolioAfter initial fills) currency -
            (portfolioAfter initial fills).balances.balance currency) = 0 := by
    apply forall_congr'
    intro prices
    apply imp_congr_right
    intro hprices
    rw [equity_eq_markedValue_add hholds husdt hnone hprices, add_eq_left]
  -- the sum is zero at all prices only if every summand is
  have hinjective : Function.Injective (fun currency : String => currency ++ "-USDT") :=
    fun a b heq => String.append_left_inj _ |>.mp heq
  rw [hdiff, forall_prices_iff hinjective]
  apply forall_congr'
  intro currency
  apply imp_congr_right
  intro hmem
  obtain ⟨fill, hfill, hof⟩ := mem_currencies.mp hmem
  obtain ⟨base, hnamed⟩ := husdt fill hfill
  obtain rfl : base = currency := Option.some.inj (hnamed.baseOf.symm.trans hof)
  rw [sub_eq_zero]
  exact countedOf_eq_balance_iff hholds husdt hnamed
    (balance_portfolioAfter initial hnodup husdt hnamed.notQuote)

def bitcoinBought (feeAmount : ℚ) (feeCurrency : String) : FillEvent :=
  { fillId := "bought", symbol := "BTC-USDT", side := .buy, fillQty := 1, fillPrice := 100,
    feeAmount := feeAmount, feeCurrency := some feeCurrency }

theorem usdtFill_bitcoinBought (feeAmount : ℚ) {feeCurrency : String}
    (h : feeCurrency = "BTC" ∨ feeCurrency = "USDT") :
    UsdtFill "BTC" (bitcoinBought feeAmount feeCurrency) where
  named := by decide
  notQuote := by decide
  plain := by decide
  symbol := .spot
  fee := by
    rcases h with rfl | rfl
    · exact .inl rfl
    · exact .inr rfl

theorem equity_is_markedValue_bought :
    (∀ prices : PriceProvider, (∀ symbol, 0 < prices symbol) →
      totalEquityOf prices (portfolioAfter 1000 [bitcoinBought (1 / 10) "USDT"]) =
        markedValue prices (portfolioAfter 1000 [bitcoinBought (1 / 10) "USDT"])) ↔
      AcquiredIsHeld [bitcoinBought (1 / 10) "USDT"] :=
  equity_is_markedValue_iff 1000 [bitcoinBought (1 / 10) "USDT"] (by decide) (by
    intro fill hmem
    rw [List.mem_singleton.mp hmem]
    exact ⟨"BTC", usdtFill_bitcoinBought _ (.inr rfl)⟩)

theorem base_fee_counts_as_equity : ¬ ∀ (initial : ℚ) (fills : List FillEvent),
    (fills.map (·.fillId)).Nodup → (∀ fill ∈ fills, ∃ base, UsdtFill base fill) →
    ∀ prices : PriceProvider, (∀ symbol, 0 < prices symbol) →
      totalEquityOf prices (portfolioAfter initial fills) =
        markedValue prices (portfolioAfter initial fills) := by
  intro h
  have heq := h 1000 [bitcoinBought (1 / 1000) "BTC"] (by decide)
    (by
      intro fill hmem
      rw [List.mem_singleton.mp hmem]
      exact ⟨"BTC", usdtFill_bitcoinBought _ (.inl rfl)⟩)
    (fun _ => 100) (fun _ => by norm_num)
  revert heq
  decide +kernel

end Aats.Portfolio
