import Mathlib.Data.List.Nodup

/-!
# Delivery at least once, in order

A sender that gives the entries of a queue one by one, and gives an entry again until it is
confirmed, sends a list in which every entry stands once or more in a row. A receiver that drops
what has a key it already knows gets the queue back.

## Main definitions
* `Repeats xs ys` — `ys` has the entries of `xs` in their order, each once or more in a row.

## Main results
* `Repeats.received_eq` — **exactly once**: with keys that differ, the receiver keeps `xs`.
-/

namespace AtLeastOnce

variable {α κ : Type*} {xs ys : List α} {x : α}

inductive Repeats : List α → List α → Prop
  | nil : Repeats [] []
  | next {xs ys : List α} (x : α) : Repeats xs ys → Repeats (xs ++ [x]) (ys ++ [x])
  | again {xs ys : List α} {x : α} : Repeats (xs ++ [x]) ys → Repeats (xs ++ [x]) (ys ++ [x])

theorem Repeats.sublist (h : Repeats xs ys) : xs.Sublist ys := by
  induction h with
  | nil => exact List.Sublist.slnil
  | next x _ ih => exact ih.append_right [x]
  | again _ ih => exact ih.trans (List.sublist_append_left _ _)

section Receiver

variable [DecidableEq κ] (key : α → κ)

def receive (kept : List α) (x : α) : List α :=
  if key x ∈ kept.map key then kept else kept ++ [x]

def received (ys : List α) : List α := ys.foldl (receive key) []

theorem received_concat (ys : List α) (x : α) :
    received key (ys ++ [x]) = receive key (received key ys) x := by
  simp [received]

/-- **Exactly once**: what is sent again has a key that the receiver knows. -/
theorem Repeats.received_eq (h : Repeats xs ys) (hkeys : (xs.map key).Nodup) :
    received key ys = xs := by
  induction h with
  | nil => rfl
  | @next xs ys x _ ih =>
    rw [List.map_append, List.nodup_append] at hkeys
    have hfresh : key x ∉ xs.map key := by
      intro hmem
      exact hkeys.2.2 _ hmem _ (by simp) rfl
    rw [received_concat, ih hkeys.1]
    exact if_neg hfresh
  | @again xs ys x _ ih =>
    rw [received_concat, ih hkeys]
    exact if_pos (by simp)

end Receiver

end AtLeastOnce
