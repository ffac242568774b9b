import Aats.Lib.Fallible
import Mathlib.Tactic.Linarith
import Mathlib.Tactic.Ring

/-!
# Walk-forward splits

`build_purged_walk_forward_splits` of `data_platform/research_factory/validation/statistics.py`: each
fold trains on all samples from the first one on and tests on the samples after a purged gap; the
next fold trains up to an embargo after the test.

## Main definitions
* `splitsFrom`, `buildPurgedWalkForwardSplits` — the loop, and the splits.
* `SplitSizes.split` — the fold of an index, on its own.

## Main results
* `buildPurgedWalkForwardSplits_spec` — **all folds that fit are built, and no test sample is seen
  in training before its test**.
-/

namespace Aats.Research

open Fallible

structure WalkForwardSplit where
  foldIndex : ℕ
  trainStart : ℤ
  trainEnd : ℤ
  testStart : ℤ
  testEnd : ℤ
  purgeSize : ℤ
  embargoSize : ℤ

/-- The arguments besides the number of samples. -/
structure SplitSizes where
  initialTrainSize : ℤ
  testSize : ℤ
  purgeSize : ℤ
  embargoSize : ℤ

def SplitSizes.splitAt (sizes : SplitSizes) (trainEnd : ℤ) (fold : ℕ) : WalkForwardSplit :=
  { foldIndex := fold, trainStart := 0, trainEnd := trainEnd
    testStart := trainEnd + sizes.purgeSize
    testEnd := trainEnd + sizes.purgeSize + sizes.testSize
    purgeSize := sizes.purgeSize, embargoSize := sizes.embargoSize }

/-- `while True`, of which only so many turns are made; `none` if it would go on. -/
def splitsFrom (sampleCount : ℤ) (sizes : SplitSizes) :
    ℕ → ℤ → ℕ → Option (List WalkForwardSplit)
  | 0, _, _ => none
  | turns + 1, trainEnd, fold =>
    let split := sizes.splitAt trainEnd fold
    if sampleCount < split.testEnd then some []
    else (splitsFrom sampleCount sizes turns (split.testEnd + sizes.embargoSize) (fold + 1)).map
      (split :: ·)

def buildPurgedWalkForwardSplits (turns : ℕ) (sampleCount : ℤ) (sizes : SplitSizes) :
    Option (Except String (List WalkForwardSplit)) :=
  if sampleCount ≤ 0 ∨ sizes.initialTrainSize ≤ 0 ∨ sizes.testSize ≤ 0 then
    some (.error "sample_count_train_and_test_sizes_must_be_positive")
  else if sizes.purgeSize < 0 ∨ sizes.embargoSize < 0 then
    some (.error "purge_and_embargo_must_be_non_negative")
  else
    (splitsFrom sampleCount sizes turns sizes.initialTrainSize 0).map fun splits =>
      if splits = [] then .error "insufficient_samples_for_walk_forward_split" else .ok splits

/-! ### The folds -/

/-- What the end of training moves by from one fold to the next. -/
def SplitSizes.period (sizes : SplitSizes) : ℤ :=
  sizes.purgeSize + sizes.testSize + sizes.embargoSize

def SplitSizes.split (sizes : SplitSizes) (fold : ℕ) : WalkForwardSplit :=
  sizes.splitAt (sizes.initialTrainSize + fold * sizes.period) fold

variable {sampleCount : ℤ} {sizes : SplitSizes}

theorem SplitSizes.split_testEnd (sizes : SplitSizes) (fold : ℕ) : (sizes.split fold).testEnd =
    sizes.initialTrainSize + fold * sizes.period + sizes.purgeSize + sizes.testSize := rfl

section Loop

variable (htest : 0 < sizes.testSize) (hpurge : 0 ≤ sizes.purgeSize)
  (hembargo : 0 ≤ sizes.embargoSize)
include htest hpurge hembargo

/-- A later fold trains up to the end of the test of an earlier one and its embargo, or longer. -/
theorem SplitSizes.split_trainEnd_le {fold later : ℕ} (h : fold < later) :
    (sizes.split fold).testEnd + sizes.embargoSize ≤ (sizes.split later).trainEnd := by
  have hperiod : 0 < sizes.period := by
    unfold SplitSizes.period
    omega
  have hfolds : ((fold : ℤ) + 1) * sizes.period ≤ later * sizes.period :=
    Int.mul_le_mul_of_nonneg_right (by omega) hperiod.le
  calc (sizes.split fold).testEnd + sizes.embargoSize
      = sizes.initialTrainSize + ((fold : ℤ) + 1) * sizes.period := by
        rw [sizes.split_testEnd, SplitSizes.period]
        ring
    _ ≤ sizes.initialTrainSize + later * sizes.period := by omega

/-- **The loop** ends when a fold does not fit any more, which each turn brings nearer. -/
theorem splitsFrom_eq {turns : ℕ} (fold : ℕ)
    (hturns : sampleCount < (sizes.split fold).testEnd + turns) :
    ∃ count, splitsFrom sampleCount sizes (turns + 1) (sizes.split fold).trainEnd fold =
        some ((List.range' fold count).map sizes.split) ∧
      ∀ k, fold ≤ k → ((sizes.split k).testEnd ≤ sampleCount ↔ k < fold + count) := by
  have hlater : ∀ k, fold < k → (sizes.split fold).testEnd < (sizes.split k).testEnd := by
    intro k hk
    have hle := sizes.split_trainEnd_le htest hpurge hembargo hk
    have htestEnd : (sizes.split k).testEnd =
      (sizes.split k).trainEnd + sizes.purgeSize + sizes.testSize := rfl
    omega
  unfold splitsFrom
  by_cases hfits : (sizes.split fold).testEnd ≤ sampleCount
  · -- a fold that fits has a turn left, as each test ends later than the one before
    cases turns with
    | zero => omega
    | succ turns =>
      have hnext : (sizes.split (fold + 1)).trainEnd =
          (sizes.split fold).testEnd + sizes.embargoSize := by
        rw [sizes.split_testEnd]
        show sizes.initialTrainSize + ((fold + 1 : ℕ) : ℤ) * sizes.period = _
        rw [SplitSizes.period]
        push_cast
        ring
      have hstrict := hlater (fold + 1) (Nat.lt_succ_self fold)
      have hrest : sampleCount < (sizes.split (fold + 1)).testEnd + turns := by omega
      obtain ⟨count, hloop, hcount⟩ := splitsFrom_eq (fold + 1) hrest
      refine ⟨count + 1, ?_, fun k hk => ?_⟩
      · rw [hnext] at hloop
        show (if sampleCount < (sizes.split fold).testEnd then some [] else
          (splitsFrom sampleCount sizes (turns + 1)
            ((sizes.split fold).testEnd + sizes.embargoSize) (fold + 1)).map
              (sizes.split fold :: ·)) = _
        rw [if_neg (not_lt.mpr hfits), hloop]
        rfl
      · rcases Nat.eq_or_lt_of_le hk with rfl | hk
        · exact iff_of_true hfits (by omega)
        · rw [hcount k hk]
          omega
  · refine ⟨0, if_pos (not_le.mp hfits), fun k hk => iff_of_false ?_ (by omega)⟩
    rcases Nat.eq_or_lt_of_le hk with rfl | hk
    · exact hfits
    · have := hlater k hk
      omega

end Loop

/-- **All folds that fit are built**, and the loop ends: with as many turns as there are samples,
and one more, the answer is an error exactly if a size is out of range or no fold fits. A fold
trains on samples that lie the purged gap before its test, and its test ends, with the embargo,
before any later training does. -/
theorem buildPurgedWalkForwardSplits_spec (sampleCount : ℤ) (sizes : SplitSizes) :
    ∃ answer, buildPurgedWalkForwardSplits (sampleCount.toNat + 1) sampleCount sizes = some answer ∧
      ((∃ splits, answer = .ok splits) ↔
        (0 < sizes.initialTrainSize ∧ 0 < sizes.testSize ∧ 0 ≤ sizes.purgeSize ∧
          0 ≤ sizes.embargoSize) ∧ (sizes.split 0).testEnd ≤ sampleCount) ∧
      ∀ splits, answer = .ok splits →
        (∃ count, splits = (List.range count).map sizes.split ∧
          ∀ fold, (sizes.split fold).testEnd ≤ sampleCount ↔ fold < count) ∧
        (∀ split ∈ splits, split.trainStart = 0 ∧ split.trainStart < split.trainEnd ∧
          split.trainEnd + sizes.purgeSize = split.testStart ∧
          split.testStart + sizes.testSize = split.testEnd ∧ split.testEnd ≤ sampleCount) ∧
        splits.Pairwise fun split later =>
          split.testEnd + sizes.embargoSize ≤ later.trainEnd := by
  unfold buildPurgedWalkForwardSplits
  split
  · next hsizes =>
    refine ⟨_, rfl, iff_of_false (by rintro ⟨_, ⟨⟩⟩) ?_, by rintro _ ⟨⟩⟩
    rintro ⟨⟨htrain, htest, hpurge, -⟩, hfits⟩
    rw [sizes.split_testEnd] at hfits
    simp only [Nat.cast_zero, zero_mul, add_zero] at hfits
    omega
  split
  · next hgaps =>
    refine ⟨_, rfl, iff_of_false (by rintro ⟨_, ⟨⟩⟩) ?_, by rintro _ ⟨⟩⟩
    rintro ⟨⟨-, -, hpurge, hembargo⟩, -⟩
    omega
  next hsizes hgaps =>
  rw [not_or, not_or] at hsizes
  rw [not_or, not_lt, not_lt] at hgaps
  obtain ⟨hcount, htrain, htest⟩ := hsizes
  rw [not_le] at hcount htrain htest
  have hfirst : (sizes.split 0).trainEnd = sizes.initialTrainSize := by
    show sizes.initialTrainSize + ((0 : ℕ) : ℤ) * sizes.period = _
    rw [Nat.cast_zero, zero_mul, add_zero]
  have hturns : sampleCount < (sizes.split 0).testEnd + (sampleCount.toNat : ℤ) := by
    have htestEnd : (sizes.split 0).testEnd =
      (sizes.split 0).trainEnd + sizes.purgeSize + sizes.testSize := rfl
    omega
  obtain ⟨count, hloop, hfits⟩ := splitsFrom_eq htest hgaps.1 hgaps.2 0 hturns
  simp only [Nat.zero_le, true_implies, Nat.zero_add] at hfits
  rw [hfirst] at hloop
  rw [hloop, ← List.range_eq_range']
  refine ⟨_, rfl, ?_, ?_⟩
  · rw [hfits 0]
    cases count with
    | zero => exact iff_of_false (by rintro ⟨_, ⟨⟩⟩) (by omega)
    | succ count =>
      refine iff_of_true ⟨_, if_neg ?_⟩ ⟨⟨htrain, htest, hgaps⟩, Nat.succ_pos count⟩
      simp
  · intro splits hsplits
    dsimp only at hsplits
    split at hsplits
    · cases hsplits
    obtain rfl := Except.ok.inj hsplits
    refine ⟨⟨count, rfl, hfits⟩, ?_, ?_⟩
    · intro split hmem
      obtain ⟨fold, hfold, rfl⟩ := List.mem_map.mp hmem
      refine ⟨rfl, ?_, rfl, rfl, (hfits fold).mpr (List.mem_range.mp hfold)⟩
      have hperiod : 0 ≤ sizes.period := by
        unfold SplitSizes.period
        omega
      exact add_pos_of_pos_of_nonneg htrain (mul_nonneg (Int.natCast_nonneg fold) hperiod)
    · rw [List.pairwise_map]
      exact List.pairwise_lt_range.imp fun h =>
        sizes.split_trainEnd_le htest hgaps.1 hgaps.2 h

end Aats.Research
