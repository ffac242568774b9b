import Mathlib.Data.List.Nodup
import Mathlib.Data.List.Perm.Subperm
import Mathlib.Data.Set.Insert

/-!
# The last items in an order

A window that has the last `n` of some items by a key. There is only one, up to the order in
which it lists them; an item that is added to a window with room makes the next window, and in a
full one it has to take the place of the item that is first by the key.

## Main definitions
* `lastN n items` — the last `n` items of a list, `items[-n:]`.
* `IsLast key n items window` — the window has the last `n` items by a key.
-/

namespace LastWindow

variable {α β : Type*} [LinearOrder β] {key : α → β} {n : ℕ} {items : Set α}
  {window other : List α}

/-- `items[-n:]` of a list, for a positive `n`. -/
def lastN (n : ℕ) (items : List α) : List α := items.drop (items.length - n)

/-- A window has the last `n` of some items: an item that it does not have comes before all that
it has, and then it is full. -/
structure IsLast (key : α → β) (n : ℕ) (items : Set α) (window : List α) : Prop where
  nodup : window.Nodup
  subset : ∀ a ∈ window, a ∈ items
  length_le : window.length ≤ n
  before : ∀ a ∈ items, a ∉ window → window.length = n ∧ ∀ b ∈ window, key a < key b

namespace IsLast

theorem mem_of_room (h : IsLast key n items window) (hroom : window.length < n) {a : α}
    (ha : a ∈ items) : a ∈ window := by
  by_contra hnot
  exact absurd (h.before a ha hnot).1 (Nat.ne_of_lt hroom)

theorem mem_of_mem (h : IsLast key n items window) (h' : IsLast key n items other) {a : α}
    (ha : a ∈ window) : a ∈ other := by
  by_contra hnot
  obtain ⟨hfull, hafter⟩ := h'.before a (h.subset a ha) hnot
  -- the other window is full, so it has an item that the first one does not have
  have hmissing : ∃ b ∈ other, b ∉ window := by
    by_contra hall
    push Not at hall
    have hperm : other.Perm window :=
      (h'.nodup.subperm hall).perm_of_length_le (hfull ▸ h.length_le)
    exact hnot (hperm.mem_iff.mpr ha)
  obtain ⟨b, hb, hbnot⟩ := hmissing
  exact lt_asymm (hafter b hb) ((h.before b (h'.subset b hb) hbnot).2 a ha)

theorem perm (h : IsLast key n items window) (h' : IsLast key n items other) :
    window.Perm other :=
  (List.perm_ext_iff_of_nodup h.nodup h'.nodup).mpr fun _ =>
    ⟨h.mem_of_mem h', h'.mem_of_mem h⟩

theorem push (h : IsLast key n items window) {a : α} (ha : a ∉ window)
    (hroom : window.length < n) : IsLast key n (insert a items) (window ++ [a]) := by
  refine ⟨?_, ?_, ?_, ?_⟩
  · exact List.nodup_append.mpr ⟨h.nodup, List.nodup_singleton a, by
      rintro b hb _ hc rfl
      exact ha (List.mem_singleton.mp hc ▸ hb)⟩
  · intro b hb
    rcases List.mem_append.mp hb with hb | hb
    · exact Set.mem_insert_of_mem _ (h.subset b hb)
    · rw [List.mem_singleton.mp hb]
      exact Set.mem_insert _ _
  · rw [List.length_append, List.length_singleton]
    exact hroom
  · intro b hb hnot
    rw [List.mem_append, List.mem_singleton, not_or] at hnot
    rcases Set.mem_insert_iff.mp hb with rfl | hb
    · exact absurd rfl hnot.2
    · exact absurd (h.mem_of_room hroom hb) hnot.1

theorem pushFull {first : α} {rest : List α} (h : IsLast key n items (first :: rest)) {a : α}
    (ha : a ∉ first :: rest) (hfull : (first :: rest).length = n)
    (hfirst : ∀ b ∈ rest ++ [a], key first < key b) :
    IsLast key n (insert a items) (rest ++ [a]) := by
  have hlength : (rest ++ [a]).length = n := by
    rw [List.length_append, List.length_singleton, ← hfull, List.length_cons]
  refine ⟨?_, ?_, hlength.le, ?_⟩
  · exact List.nodup_append.mpr ⟨(List.nodup_cons.mp h.nodup).2, List.nodup_singleton a, by
      rintro b hb _ hc rfl
      exact ha (List.mem_cons_of_mem _ (List.mem_singleton.mp hc ▸ hb))⟩
  · intro b hb
    rcases List.mem_append.mp hb with hb | hb
    · exact Set.mem_insert_of_mem _ (h.subset b (List.mem_cons_of_mem _ hb))
    · rw [List.mem_singleton.mp hb]
      exact Set.mem_insert _ _
  · intro b hb hnot
    refine ⟨hlength, fun c hc => ?_⟩
    rcases Set.mem_insert_iff.mp hb with rfl | hb
    · exact absurd (List.mem_append_right _ (List.mem_singleton.mpr rfl)) hnot
    · by_cases hbfirst : b = first
      · rw [hbfirst]
        exact hfirst c hc
      · -- an item that was left out before comes before the first one
        have hbnot : b ∉ first :: rest := by
          rw [List.mem_cons, not_or]
          exact ⟨hbfirst, fun hmem => hnot (List.mem_append_left _ hmem)⟩
        exact lt_trans ((h.before b hb hbnot).2 first List.mem_cons_self) (hfirst c hc)

theorem congr {items' : Set α} (h : IsLast key n items window) (heq : ∀ a, a ∈ items ↔ a ∈ items') :
    IsLast key n items' window := by
  rwa [← Set.ext heq]

end IsLast

theorem isLast_lastN {sorted : List α} (h : sorted.Pairwise fun a b => key a < key b) (n : ℕ) :
    IsLast key n {a | a ∈ sorted} (lastN n sorted) := by
  have hsplit : sorted = sorted.take (sorted.length - n) ++ lastN n sorted :=
    (List.take_append_drop _ _).symm
  have hnodup : sorted.Nodup := h.imp fun hlt heq => by
    rw [heq] at hlt
    exact lt_irrefl _ hlt
  have hlength : (lastN n sorted).length = min n sorted.length := by
    unfold lastN
    rw [List.length_drop]
    omega
  refine ⟨hnodup.sublist (List.drop_sublist _ _), fun a ha => List.mem_of_mem_drop ha, ?_, ?_⟩
  · rw [hlength]
    exact min_le_left _ _
  · intro a ha hnot
    have ha : a ∈ sorted := ha
    rw [hsplit] at ha
    rcases List.mem_append.mp ha with htake | hdrop
    · refine ⟨?_, fun b hb => ?_⟩
      · rw [hlength]
        have hpos : 0 < (sorted.take (sorted.length - n)).length := List.length_pos_of_mem htake
        rw [List.length_take] at hpos
        omega
      · rw [hsplit] at h
        exact (List.pairwise_append.mp h).2.2 a htake b hb
    · exact absurd hdrop hnot

end LastWindow
