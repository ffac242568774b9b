import Mathlib.Data.List.Perm.Basic
import Mathlib.Order.Lattice

/-!
# Tables in which the newest update stands

A table holds one item under each key. Updates arrive in some order, each with a stamp, and an
update replaces what the table holds if its stamp is newer. Two updates with the same stamp are a
tie, and a table either keeps what it holds or takes what comes in. Either way the order of
arrival decides a tie, so the table is the same in every order exactly if there is no tie that
matters.

## Main definitions
* `Tie`, `settle`, `receiveAll` — the rule for a tie, one item, and the table after updates.
* `Unambiguous` — no two updates are newest under one key.

## Main results
* `foldl_settle_cases` — what is left of updates: what was there, or a newest one of them.
* `receiveAll_eq_iff` — the order of arrival does not matter exactly if the updates are
  unambiguous.
-/

namespace LastWriter

variable {α κ τ : Type*} [DecidableEq κ] [LinearOrder τ]

inductive Tie
  | keepHeld
  | takeNew
  deriving DecidableEq, Repr

/-- An update with a stamp is taken over what is held with another. -/
def Tie.Admits (tie : Tie) (held update : τ) : Prop :=
  match tie with
  | keepHeld => held < update
  | takeNew => held ≤ update

instance (tie : Tie) (held update : τ) : Decidable (tie.Admits held update) := by
  unfold Tie.Admits
  cases tie <;> infer_instance

def settle (tie : Tie) (stamp : α → τ) (cell : Option α) (update : α) : Option α :=
  match cell with
  | none => some update
  | some held => if tie.Admits (stamp held) (stamp update) then some update else some held

def receive (tie : Tie) (key : α → κ) (stamp : α → τ) (table : κ → Option α) (update : α) :
    κ → Option α :=
  Function.update table (key update) (settle tie stamp (table (key update)) update)

def receiveAll (tie : Tie) (key : α → κ) (stamp : α → τ) (table : κ → Option α)
    (updates : List α) : κ → Option α :=
  updates.foldl (receive tie key stamp) table

def Enters (tie : Tie) (stamp : α → τ) (cell : Option α) (update : α) : Prop :=
  ∀ held ∈ cell, tie.Admits (stamp held) (stamp update)

def Newest (key : α → κ) (stamp : α → τ) (updates : List α) (update : α) : Prop :=
  ∀ other ∈ updates, key other = key update → stamp other ≤ stamp update

/-- No two updates are newest under one key, except where the table holds something newer. -/
def Unambiguous (tie : Tie) (key : α → κ) (stamp : α → τ) (table : κ → Option α)
    (updates : List α) : Prop :=
  ∀ update ∈ updates, ∀ other ∈ updates, key other = key update →
    Newest key stamp updates update → Newest key stamp updates other →
      Enters tie stamp (table (key update)) update → other = update

/-! ### Ties -/

section Tie

variable {tie : Tie} {a b c : τ}

@[simp] theorem Tie.admits_keepHeld : Tie.keepHeld.Admits a b ↔ a < b := Iff.rfl

@[simp] theorem Tie.admits_takeNew : Tie.takeNew.Admits a b ↔ a ≤ b := Iff.rfl

theorem Tie.le_of_admits (h : tie.Admits a b) : a ≤ b := by
  cases tie with
  | keepHeld => exact le_of_lt h
  | takeNew => exact h

theorem Tie.le_of_not_admits (h : ¬ tie.Admits a b) : b ≤ a := by
  cases tie with
  | keepHeld => exact not_lt.mp h
  | takeNew => exact le_of_not_ge h

theorem Tie.admits_trans (hab : tie.Admits a b) (hbc : tie.Admits b c) : tie.Admits a c := by
  cases tie with
  | keepHeld => exact lt_trans hab hbc
  | takeNew => exact le_trans hab hbc

end Tie

/-! ### One item -/

section Item

variable {tie : Tie} {stamp : α → τ} {cell : Option α} {update : α} {updates : List α}

theorem settle_of_enters (h : Enters tie stamp cell update) :
    settle tie stamp cell update = some update := by
  cases cell with
  | none => rfl
  | some held => exact if_pos (h held rfl)

theorem settle_of_not_enters (h : ¬ Enters tie stamp cell update) :
    settle tie stamp cell update = cell := by
  cases cell with
  | none => exact absurd (by rintro _ ⟨⟩) h
  | some held =>
    refine if_neg fun hadmits => h ?_
    rintro _ ⟨⟩
    exact hadmits

theorem exists_le_of_not_enters (h : ¬ Enters tie stamp cell update) :
    ∃ held, cell = some held ∧ stamp update ≤ stamp held := by
  cases cell with
  | none => exact absurd (by rintro _ ⟨⟩) h
  | some held =>
    have hnot : ¬ tie.Admits (stamp held) (stamp update) := by
      intro hadmits
      refine h ?_
      rintro _ ⟨⟩
      exact hadmits
    exact ⟨held, rfl, Tie.le_of_not_admits hnot⟩

/-- **What updates leave**: what was held, if none of them enters, or a newest one of them. -/
theorem foldl_settle_cases (tie : Tie) (stamp : α → τ) (cell : Option α) (updates : List α) :
    (updates.foldl (settle tie stamp) cell = cell ∧
        ∀ update ∈ updates, ¬ Enters tie stamp cell update) ∨
      ∃ update ∈ updates, updates.foldl (settle tie stamp) cell = some update ∧
        Enters tie stamp cell update ∧ ∀ other ∈ updates, stamp other ≤ stamp update := by
  induction updates generalizing cell with
  | nil => exact .inl ⟨rfl, by simp⟩
  | cons first updates ih =>
    rw [List.foldl_cons]
    by_cases henters : Enters tie stamp cell first
    · -- the first update is held from now on
      rw [settle_of_enters henters]
      refine .inr ?_
      rcases ih (some first) with ⟨heq, hnone⟩ | ⟨update, hmem, heq, hafter, hnewest⟩
      · refine ⟨first, List.mem_cons_self, heq, henters, ?_⟩
        intro other hother
        rcases List.mem_cons.mp hother with rfl | hother
        · exact le_rfl
        · obtain ⟨held, hheld, hle⟩ := exists_le_of_not_enters (hnone other hother)
          rw [Option.some.injEq] at hheld
          exact hheld ▸ hle
      · refine ⟨update, List.mem_cons_of_mem _ hmem, heq, ?_, ?_⟩
        · intro held hheld
          exact Tie.admits_trans (henters held hheld) (hafter first rfl)
        · intro other hother
          rcases List.mem_cons.mp hother with rfl | hother
          · exact Tie.le_of_admits (hafter other rfl)
          · exact hnewest other hother
    · -- the first update is dropped
      rw [settle_of_not_enters henters]
      rcases ih cell with ⟨heq, hnone⟩ | ⟨update, hmem, heq, hafter, hnewest⟩
      · refine .inl ⟨heq, ?_⟩
        intro other hother
        rcases List.mem_cons.mp hother with rfl | hother
        · exact henters
        · exact hnone other hother
      · refine .inr ⟨update, List.mem_cons_of_mem _ hmem, heq, hafter, ?_⟩
        intro other hother
        rcases List.mem_cons.mp hother with rfl | hother
        · obtain ⟨held, hheld, hle⟩ := exists_le_of_not_enters henters
          exact le_trans hle (Tie.le_of_admits (hafter held hheld))
        · exact hnewest other hother

/-- The order of arrival in which an update has the best chance against ties: first or last. -/
def Tie.arrival (tie : Tie) (update : α) (rest : List α) : List α :=
  match tie with
  | keepHeld => update :: rest
  | takeNew => rest ++ [update]

theorem Tie.arrival_perm (tie : Tie) (update : α) (rest : List α) :
    (tie.arrival update rest).Perm (update :: rest) := by
  cases tie with
  | keepHeld => exact List.Perm.refl _
  | takeNew => exact List.perm_append_singleton update rest

theorem Tie.filter_arrival (tie : Tie) {p : α → Bool} (h : p update = true) (rest : List α) :
    (tie.arrival update rest).filter p = tie.arrival update (rest.filter p) := by
  cases tie with
  | keepHeld => exact List.filter_cons_of_pos h
  | takeNew =>
    show (rest ++ [update]).filter p = rest.filter p ++ [update]
    rw [List.filter_append, List.filter_cons_of_pos h, List.filter_nil]

theorem foldl_settle_arrival {rest : List α} (henters : Enters tie stamp cell update)
    (hnewest : ∀ other ∈ rest, stamp other ≤ stamp update) :
    (tie.arrival update rest).foldl (settle tie stamp) cell = some update := by
  cases tie with
  | keepHeld =>
    show (update :: rest).foldl (settle .keepHeld stamp) cell = some update
    rw [List.foldl_cons, settle_of_enters henters]
    rcases foldl_settle_cases .keepHeld stamp (some update) rest with
      ⟨heq, -⟩ | ⟨other, hother, -, hafter, -⟩
    · exact heq
    · exact absurd (hafter update rfl) (not_lt.mpr (hnewest other hother))
  | takeNew =>
    show (rest ++ [update]).foldl (settle .takeNew stamp) cell = some update
    rw [List.foldl_append, List.foldl_cons, List.foldl_nil]
    refine settle_of_enters ?_
    rcases foldl_settle_cases .takeNew stamp cell rest with
      ⟨heq, -⟩ | ⟨other, hother, heq, -, -⟩
    · rw [heq]
      exact henters
    · rw [heq]
      rintro _ ⟨⟩
      exact hnewest other hother

end Item

/-! ### The table -/

section Table

variable {tie : Tie} {key : α → κ} {stamp : α → τ} {table : κ → Option α} {updates : List α}

theorem receiveAll_apply (tie : Tie) (key : α → κ) (stamp : α → τ) (table : κ → Option α)
    (updates : List α) (k : κ) :
    receiveAll tie key stamp table updates k =
      (updates.filter (key · = k)).foldl (settle tie stamp) (table k) := by
  unfold receiveAll
  induction updates generalizing table with
  | nil => rfl
  | cons update updates ih =>
    rw [List.foldl_cons, ih, receive]
    by_cases hk : key update = k
    · subst hk
      rw [Function.update_self, List.filter_cons_of_pos (by simp), List.foldl_cons]
    · rw [Function.update_of_ne (Ne.symm hk), List.filter_cons_of_neg (by simpa using hk)]

theorem foldl_settle_eq {cell : Option α} {first second : List α} (hperm : first.Perm second)
    (hunique : ∀ update ∈ first, ∀ other ∈ first, Enters tie stamp cell update →
      (∀ w ∈ first, stamp w ≤ stamp update) → (∀ w ∈ first, stamp w ≤ stamp other) →
        other = update) :
    first.foldl (settle tie stamp) cell = second.foldl (settle tie stamp) cell := by
  rcases foldl_settle_cases tie stamp cell first with
    ⟨heq, hnone⟩ | ⟨update, hmem, heq, henters, hnewest⟩ <;>
  rcases foldl_settle_cases tie stamp cell second with
    ⟨heq', hnone'⟩ | ⟨other, hother, heq', henters', hnewest'⟩
  · rw [heq, heq']
  · exact absurd henters' (hnone other (hperm.mem_iff.mpr hother))
  · exact absurd henters (hnone' update (hperm.mem_iff.mp hmem))
  · rw [heq, heq', hunique update hmem other (hperm.mem_iff.mpr hother) henters hnewest
      fun w hw => hnewest' w (hperm.mem_iff.mp hw)]

/-- **The order of arrival does not matter** exactly if no two updates are newest under one key. -/
theorem receiveAll_eq_iff :
    (∀ first second : List α, first.Perm updates → second.Perm updates →
        receiveAll tie key stamp table first = receiveAll tie key stamp table second) ↔
      Unambiguous tie key stamp table updates := by
  constructor
  · intro h update hupdate other hother hkey hnewest hnewest' henters
    have hstamp : stamp other = stamp update :=
      le_antisymm (hnewest other hother hkey) (hnewest' update hupdate hkey.symm)
    -- let the one or the other of the two stand under their key
    have harrival : ∀ winner ∈ updates, key winner = key update → stamp winner = stamp update →
        ∃ arrival : List α, arrival.Perm updates ∧
          receiveAll tie key stamp table arrival (key update) = some winner := by
      intro winner hwinner hwinnerKey hwinnerStamp
      obtain ⟨before, after, hsplit⟩ := List.append_of_mem hwinner
      refine ⟨tie.arrival winner (before ++ after), ?_, ?_⟩
      · rw [hsplit]
        exact (tie.arrival_perm winner _).trans List.perm_middle.symm
      · rw [receiveAll_apply, tie.filter_arrival (by simpa using hwinnerKey)]
        refine foldl_settle_arrival (fun held hheld => hwinnerStamp ▸ henters held hheld) ?_
        intro w hw
        obtain ⟨hw, hwKey⟩ := List.mem_filter.mp hw
        rw [hwinnerStamp]
        refine hnewest w ?_ (by simpa using hwKey)
        rw [hsplit, List.mem_append, List.mem_cons]
        rcases List.mem_append.mp hw with hw | hw
        · exact .inl hw
        · exact .inr (.inr hw)
    obtain ⟨first, hfirst, hstands⟩ := harrival other hother hkey hstamp
    obtain ⟨second, hsecond, hstands'⟩ := harrival update hupdate rfl rfl
    rw [h first second hfirst hsecond, hstands', Option.some.injEq] at hstands
    exact hstands.symm
  · intro h first second hfirst hsecond
    funext k
    rw [receiveAll_apply, receiveAll_apply]
    refine foldl_settle_eq ((hfirst.trans hsecond.symm).filter _) ?_
    intro update hupdate other hother henters hnewest hnewest'
    obtain ⟨hupdate', hkey⟩ := List.mem_filter.mp hupdate
    obtain ⟨hother', hkey'⟩ := List.mem_filter.mp hother
    rw [decide_eq_true_eq] at hkey hkey'
    subst hkey
    have hwithin : ∀ {w}, w ∈ updates → key w = key update →
        w ∈ first.filter (key · = key update) := fun hw hwkey =>
      List.mem_filter.mpr ⟨hfirst.mem_iff.mpr hw, by simpa using hwkey⟩
    exact h update (hfirst.mem_iff.mp hupdate') other (hfirst.mem_iff.mp hother') hkey'
      (fun w hw hwkey => hnewest w (hwithin hw hwkey))
      (fun w hw hwkey => hnewest' w (hwithin hw (hwkey.trans hkey'))) henters

end Table

end LastWriter
