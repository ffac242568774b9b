import Aats.Lib.KeyedList

/-!
# Following references with a worklist

Items of a table refer to each other by key. A worklist of keys that are still to be looked at
collects everything that some items refer to, directly or not; keys that nothing is under are
skipped. Each round takes one key off the list, and an item puts its references on it only once,
so that as many rounds as there are keys on the list and references in the rest of the table are
enough.

## Main results
* `mem_visit` — the worklist collects exactly what can be reached.
-/

namespace Worklist

open KeyedList

variable {α κ : Type*} [DecidableEq κ] (key : α → κ) (successors : α → List κ) (items : List α)

/-- The items collected from those seen so far, with a list of keys to look at. -/
def visit : ℕ → List κ → List α → List α
  | 0, _, seen => seen
  | _ + 1, [], seen => seen
  | fuel + 1, k :: pending, seen =>
    if k ∈ seen.map key then visit fuel pending seen
    else
      match lookup key items k with
      | none => visit fuel pending seen
      | some item =>
        visit fuel ((successors item).filter (· ∉ (seen ++ [item]).map key) ++ pending)
          (seen ++ [item])

inductive Reached (start : List α) : α → Prop
  | start (item : α) (h : item ∈ start) : Reached start item
  | follow (item next : α) (h : Reached start item) (hrefers : key next ∈ successors item)
      (hnext : lookup key items (key next) = some next) : Reached start next

def unseen (seen : List α) : ℕ :=
  ((items.filter (fun item => key item ∉ seen.map key)).map (fun item => (successors item).length)).sum

def rounds (pending : List κ) (seen : List α) : ℕ :=
  pending.length + unseen key successors items seen

/-- Every reference of what is seen leads to something seen, to nothing, or is still pending. -/
def Followed (pending : List κ) (seen : List α) : Prop :=
  ∀ item ∈ seen, ∀ k ∈ successors item,
    k ∈ seen.map key ∨ lookup key items k = none ∨ k ∈ pending

theorem sum_filter_add_le (weight : α → ℕ) {items : List α} {keep stay : α → Bool} {item : α}
    (hmem : item ∈ items) (hkeep : keep item = true) (hstay : stay item = false)
    (hsub : ∀ other, stay other = true → keep other = true) :
    ((items.filter stay).map weight).sum + weight item ≤ ((items.filter keep).map weight).sum := by
  have hle : ∀ rest : List α,
      ((rest.filter stay).map weight).sum ≤ ((rest.filter keep).map weight).sum := by
    intro rest
    induction rest with
    | nil => exact le_rfl
    | cons other rest ih =>
      rw [List.filter_cons, List.filter_cons]
      by_cases hother : stay other = true
      · rw [if_pos hother, if_pos (hsub other hother)]
        simpa using ih
      · rw [if_neg hother]
        split
        · rw [List.map_cons, List.sum_cons]
          omega
        · exact ih
  induction items with
  | nil => cases hmem
  | cons other rest ih =>
    rw [List.filter_cons, List.filter_cons]
    rcases List.mem_cons.mp hmem with rfl | hrest
    · rw [if_neg (by rw [hstay]; exact Bool.false_ne_true), if_pos hkeep, List.map_cons,
        List.sum_cons]
      have := hle rest
      omega
    · have hih := ih hrest
      by_cases hother : stay other = true
      · rw [if_pos hother, if_pos (hsub other hother), List.map_cons, List.sum_cons,
          List.map_cons, List.sum_cons]
        omega
      · rw [if_neg hother]
        split
        · rw [List.map_cons, List.sum_cons]
          omega
        · exact hih

variable {key successors items}

theorem unseen_concat {seen : List α} {item : α} (hmem : item ∈ items)
    (hnew : key item ∉ seen.map key) :
    unseen key successors items (seen ++ [item]) + (successors item).length ≤
      unseen key successors items seen := by
  unfold unseen
  apply sum_filter_add_le (fun item => (successors item).length) hmem
  · exact decide_eq_true hnew
  · simp
  · intro other hother
    simp only [List.map_append, List.mem_append, not_or, decide_eq_true_eq] at hother ⊢
    exact hother.1

section Visit

variable {start : List α}

theorem reached_of_mem_visit (fuel : ℕ) {pending : List κ} {seen : List α}
    (hseen : ∀ item ∈ seen, Reached key successors items start item)
    (hpending : ∀ k ∈ pending, ∃ item, Reached key successors items start item ∧
      k ∈ successors item) :
    ∀ item ∈ visit key successors items fuel pending seen,
      Reached key successors items start item := by
  induction fuel generalizing pending seen with
  | zero => exact hseen
  | succ fuel ih =>
    cases pending with
    | nil => exact hseen
    | cons k pending =>
      have hrest : ∀ other ∈ pending, ∃ item, Reached key successors items start item ∧
          other ∈ successors item := fun other hmem => hpending other (List.mem_cons_of_mem _ hmem)
      rw [visit]
      split
      · exact ih hseen hrest
      · cases hlookup : lookup key items k with
        | none => exact ih hseen hrest
        | some next =>
          obtain ⟨item, hitem, hrefers⟩ := hpending k List.mem_cons_self
          have hkey : key next = k := key_of_lookup hlookup
          have hnext : Reached key successors items start next :=
            .follow item next hitem (hkey ▸ hrefers) (by rw [hkey]; exact hlookup)
          apply ih
          · intro other hother
            rcases List.mem_append.mp hother with hold | hnew
            · exact hseen other hold
            · rw [List.mem_singleton.mp hnew]
              exact hnext
          · intro other hother
            rcases List.mem_append.mp hother with hnew | hold
            · exact ⟨next, hnext, (List.mem_filter.mp hnew).1⟩
            · exact hrest other hold

theorem subset_visit (fuel : ℕ) {pending : List κ} {seen : List α} :
    seen ⊆ visit key successors items fuel pending seen := by
  induction fuel generalizing pending seen with
  | zero => exact fun _ h => h
  | succ fuel ih =>
    cases pending with
    | nil => exact fun _ h => h
    | cons k pending =>
      rw [visit]
      split
      · exact ih
      · cases lookup key items k with
        | none => exact ih
        | some next => exact fun item hmem => ih (List.mem_append_left _ hmem)

theorem Followed.closed {seen : List α} (h : Followed key successors items [] seen) :
    ∀ item ∈ seen, ∀ k ∈ successors item, k ∈ seen.map key ∨ lookup key items k = none := by
  intro item hmem k hk
  rcases h item hmem k hk with hseen | hnone | hpending
  · exact Or.inl hseen
  · exact Or.inr hnone
  · cases hpending

theorem Followed.skip {first : κ} {pending : List κ} {seen : List α}
    (h : Followed key successors items (first :: pending) seen)
    (hfirst : first ∈ seen.map key ∨ lookup key items first = none) :
    Followed key successors items pending seen := by
  intro item hmem k hk
  rcases h item hmem k hk with hseen | hnone | hpending
  · exact Or.inl hseen
  · exact Or.inr (Or.inl hnone)
  · rcases List.mem_cons.mp hpending with rfl | hlater
    · exact hfirst.imp_right Or.inl
    · exact Or.inr (Or.inr hlater)

theorem Followed.take {next : α} {pending : List κ} {seen : List α}
    (h : Followed key successors items (key next :: pending) seen) :
    Followed key successors items
      ((successors next).filter (fun k => decide (k ∉ (seen ++ [next]).map key)) ++ pending)
      (seen ++ [next]) := by
  intro item hmem k hk
  by_cases hin : k ∈ (seen ++ [next]).map key
  · exact Or.inl hin
  rcases List.mem_append.mp hmem with hold | hlast
  · rcases h item hold k hk with hseen | hnone | hpending
    · exact Or.inl (by rw [List.map_append]; exact List.mem_append_left _ hseen)
    · exact Or.inr (Or.inl hnone)
    · rcases List.mem_cons.mp hpending with rfl | hlater
      · exact absurd (by simp) hin
      · exact Or.inr (Or.inr (List.mem_append_right _ hlater))
  · rw [List.mem_singleton.mp hlast] at hk
    exact Or.inr (Or.inr (List.mem_append_left _ (List.mem_filter.mpr ⟨hk, decide_eq_true hin⟩)))

theorem rounds_take {next : α} {pending : List κ} {seen : List α} (hmem : next ∈ items)
    (hnew : key next ∉ seen.map key) :
    rounds key successors items
        ((successors next).filter (fun k => decide (k ∉ (seen ++ [next]).map key)) ++ pending)
        (seen ++ [next]) <
      rounds key successors items (key next :: pending) seen := by
  have hunseen : unseen key successors items (seen ++ [next]) + (successors next).length ≤
      unseen key successors items seen := unseen_concat hmem hnew
  have hfilter := List.length_filter_le (fun k => decide (k ∉ (seen ++ [next]).map key))
    (successors next)
  unfold rounds
  rw [List.length_append, List.length_cons]
  omega

theorem visit_closed (fuel : ℕ) {pending : List κ} {seen : List α}
    (hfuel : rounds key successors items pending seen ≤ fuel)
    (hopen : Followed key successors items pending seen) :
    ∀ item ∈ visit key successors items fuel pending seen, ∀ k ∈ successors item,
      k ∈ (visit key successors items fuel pending seen).map key ∨ lookup key items k = none := by
  induction fuel generalizing pending seen with
  | zero =>
    have hnil : pending = [] := by
      unfold rounds at hfuel
      rw [← List.length_eq_zero_iff]
      omega
    exact (hnil ▸ hopen : Followed key successors items [] seen).closed
  | succ fuel ih =>
    cases pending with
    | nil => exact hopen.closed
    | cons first pending =>
      have hless : rounds key successors items pending seen ≤ fuel := by
        unfold rounds at hfuel ⊢
        rw [List.length_cons] at hfuel
        omega
      rw [visit]
      split
      · next hseen => exact ih hless (hopen.skip (Or.inl hseen))
      · next hnew =>
        cases hlookup : lookup key items first with
        | none => exact ih hless (hopen.skip (Or.inr hlookup))
        | some next =>
          obtain rfl : key next = first := key_of_lookup hlookup
          have hcost := (rounds_take (mem_of_lookup hlookup) hnew).trans_le hfuel
          exact ih (Nat.le_of_lt_succ hcost) hopen.take

theorem nodup_visit (fuel : ℕ) {pending : List κ} {seen : List α} (h : (seen.map key).Nodup) :
    ((visit key successors items fuel pending seen).map key).Nodup := by
  induction fuel generalizing pending seen with
  | zero => exact h
  | succ fuel ih =>
    cases pending with
    | nil => exact h
    | cons k pending =>
      rw [visit]
      split
      · exact ih h
      · next hnew =>
        cases hlookup : lookup key items k with
        | none => exact ih h
        | some next =>
          apply ih
          rw [List.map_append, List.map_singleton, key_of_lookup hlookup]
          exact List.nodup_append.mpr ⟨h, List.nodup_singleton k, fun a ha b hb heq =>
            hnew (by rw [← List.mem_singleton.mp hb, ← heq]; exact ha)⟩

theorem mem_visit (hkeys : (items.map key).Nodup) (hstart : ∀ item ∈ start, item ∈ items) {item : α} :
    item ∈ visit key successors items
        (rounds key successors items (start.flatMap successors) start)
        (start.flatMap successors) start ↔
      Reached key successors items start item := by
  have hreached : ∀ item ∈ visit key successors items
      (rounds key successors items (start.flatMap successors) start) (start.flatMap successors) start,
      Reached key successors items start item := by
    apply reached_of_mem_visit
    · exact fun item hmem => .start item hmem
    · intro k hk
      obtain ⟨item, hitem, hrefers⟩ := List.mem_flatMap.mp hk
      exact ⟨item, .start item hitem, hrefers⟩
  have hitems : ∀ item, Reached key successors items start item → item ∈ items := by
    intro item hitem
    cases hitem with
    | start item h => exact hstart item h
    | follow item next _ _ hnext => exact mem_of_lookup hnext
  constructor
  · exact hreached item
  · intro hitem
    induction hitem with
    | start item h => exact subset_visit _ h
    | follow item next _ hrefers hnext ih =>
      have hclosed := visit_closed
        (rounds key successors items (start.flatMap successors) start) le_rfl
        (fun item hmem k hk => Or.inr (Or.inr (List.mem_flatMap.mpr ⟨item, hmem, hk⟩)))
        item ih (key next) hrefers
      rcases hclosed with hin | hnone
      · obtain ⟨other, hother, heq⟩ := List.mem_map.mp hin
        have hsame : lookup key items (key other) = some other :=
          lookup_of_mem hkeys (hitems other (hreached other hother))
        rw [heq, hnext] at hsame
        rw [Option.some.inj hsame]
        exact hother
      · rw [hnext] at hnone
        cases hnone

end Visit

end Worklist
