import Mathlib.Data.List.Sort

/-!
# Merging ordered streams

A merge takes the heads of a family of streams one after the other, each time one whose key is
smallest. Nothing is lost or doubled, each stream keeps its own order, and if the streams are
strictly increasing and share no key, so is the result. There is then only one merge of the
same elements, however they are spread over streams.

## Main definitions
* `Merges key streams out` — `out` is a merge of the streams by `key`.
-/

namespace KWayMerge

variable {ι α κ : Type*} [DecidableEq ι] [LinearOrder κ] {key : α → κ} {streams : ι → List α}
  {out : List α}

/-- The streams are empty, or one of them gives a head with the smallest key. -/
inductive Merges (key : α → κ) : (ι → List α) → List α → Prop
  | done {streams : ι → List α} (hempty : ∀ i, streams i = []) : Merges key streams []
  /-- The stream `i` gives its head. -/
  | emit {streams : ι → List α} {out : List α} (i : ι) {a : α} {l : List α}
      (hi : streams i = a :: l) (hleast : ∀ j b m, streams j = b :: m → key a ≤ key b)
      (hrest : Merges key (Function.update streams i l) out) : Merges key streams (a :: out)

theorem mem_of_mem_update {i j : ι} {a b : α} {l : List α} (hi : streams i = a :: l)
    (hb : b ∈ Function.update streams i l j) : b ∈ streams j := by
  by_cases hji : j = i
  · subst hji
    rw [Function.update_self] at hb
    rw [hi]
    exact List.mem_cons_of_mem _ hb
  · rwa [Function.update_of_ne hji] at hb

theorem Merges.mem (h : Merges key streams out) {a : α} (ha : a ∈ out) : ∃ i, a ∈ streams i := by
  induction h with
  | done _ => cases ha
  | emit i hi _ _ ih =>
    rcases List.mem_cons.mp ha with rfl | ha
    · exact ⟨i, by rw [hi]; exact List.mem_cons_self⟩
    · obtain ⟨j, hj⟩ := ih ha
      exact ⟨j, mem_of_mem_update hi hj⟩

theorem Merges.filter_eq {source : α → ι} (h : Merges key streams out)
    (hsource : ∀ i, ∀ a ∈ streams i, source a = i) (i : ι) :
    out.filter (fun a => source a = i) = streams i := by
  induction h with
  | done hempty => rw [hempty i, List.filter_nil]
  | @emit streams out j a l hj _ _ ih =>
    have ha : source a = j := hsource j a (by rw [hj]; exact List.mem_cons_self)
    have hrest := ih fun k b hb => hsource k b (mem_of_mem_update hj hb)
    by_cases hij : i = j
    · subst hij
      rw [Function.update_self] at hrest
      rw [List.filter_cons_of_pos (by simpa using ha), hrest, hj]
    · rw [Function.update_of_ne hij] at hrest
      have hne : source a ≠ i := fun heq => hij (heq.symm.trans ha)
      rw [List.filter_cons_of_neg (by simpa using hne), hrest]

theorem perm_flatMap_filter (source : α → ι) {indices : List ι} (hnodup : indices.Nodup)
    (hall : ∀ a ∈ out, source a ∈ indices) :
    out.Perm (indices.flatMap fun i => out.filter fun a => source a = i) := by
  induction indices generalizing out with
  | nil =>
    cases out with
    | nil => exact .nil
    | cons a out => exact absurd (hall a List.mem_cons_self) (List.not_mem_nil)
  | cons i indices ih =>
    rw [List.nodup_cons] at hnodup
    -- the part of `i` first, then the parts of what is left
    have hrest : ∀ a ∈ out.filter (fun a => ¬ source a = i), source a ∈ indices := by
      intro a ha
      obtain ⟨ha, hne⟩ := List.mem_filter.mp ha
      exact (List.mem_cons.mp (hall a ha)).resolve_left (by simpa using hne)
    have hparts : (indices.flatMap fun j => out.filter fun a => source a = j) =
        indices.flatMap fun j =>
          (out.filter fun a => ¬ source a = i).filter fun a => source a = j := by
      refine List.flatMap_congr fun j hj => ?_
      rw [List.filter_filter]
      refine List.filter_congr fun a _ => ?_
      have hji : j ≠ i := fun heq => hnodup.1 (heq ▸ hj)
      by_cases haj : source a = j <;> simp [haj, hji]
    rw [List.flatMap_cons, hparts]
    have hsplit := List.filter_append_perm (fun a => decide (source a = i)) out
    refine hsplit.symm.trans (List.Perm.append_left _ ?_)
    simpa using ih hnodup.2 hrest

theorem Merges.perm {source : α → ι} (h : Merges key streams out)
    (hsource : ∀ i, ∀ a ∈ streams i, source a = i) {indices : List ι} (hnodup : indices.Nodup)
    (hall : ∀ i, i ∈ indices) : out.Perm (indices.flatMap streams) := by
  have hparts := perm_flatMap_filter source hnodup (fun a (_ : a ∈ out) => hall _)
  rwa [List.flatMap_congr fun i _ => h.filter_eq hsource i] at hparts

theorem Merges.pairwise_lt (h : Merges key streams out)
    (hsorted : ∀ i, (streams i).Pairwise fun a b => key a < key b)
    (hapart : ∀ i j, i ≠ j → ∀ a ∈ streams i, ∀ b ∈ streams j, key a ≠ key b) :
    out.Pairwise fun a b => key a < key b := by
  induction h with
  | done _ => exact .nil
  | @emit streams out i a l hi hleast hrest ih =>
    have hhead := hsorted i
    rw [hi, List.pairwise_cons] at hhead
    refine List.pairwise_cons.mpr ⟨fun b hb => ?_, ih (fun j => ?_) fun j k hjk b hb c hc =>
      hapart j k hjk b (mem_of_mem_update hi hb) c (mem_of_mem_update hi hc)⟩
    · obtain ⟨j, hj⟩ := hrest.mem hb
      by_cases hji : j = i
      · subst hji
        rw [Function.update_self] at hj
        exact hhead.1 b hj
      · -- `b` comes after the head of its own stream, which is not below `a`
        rw [Function.update_of_ne hji] at hj
        have ha : a ∈ streams i := by rw [hi]; exact List.mem_cons_self
        refine lt_of_le_of_ne ?_ (hapart i j (Ne.symm hji) a ha b hj)
        cases hstream : streams j with
        | nil => rw [hstream] at hj; cases hj
        | cons c m =>
          have hc := hleast j c m hstream
          have hjsorted := hsorted j
          rw [hstream, List.pairwise_cons] at hjsorted
          rw [hstream] at hj
          rcases List.mem_cons.mp hj with rfl | hj
          · exact hc
          · exact hc.trans (hjsorted.1 b hj).le
    · by_cases hji : j = i
      · subst hji
        rw [Function.update_self]
        exact hhead.2
      · rw [Function.update_of_ne hji]
        exact hsorted j

theorem eq_of_perm_of_pairwise_lt {out₁ out₂ : List α} (h₁ : out₁.Pairwise fun a b => key a < key b)
    (h₂ : out₂.Pairwise fun a b => key a < key b) (h : out₁.Perm out₂) : out₁ = out₂ :=
  h.eq_of_pairwise (fun _ _ _ _ hab hba => absurd (hab.trans hba) (lt_irrefl _)) h₁ h₂

end KWayMerge
