import Mathlib.Data.List.Induction
import Mathlib.Data.Set.Finite.Lemmas
import Mathlib.Order.Bounds.Basic
import TierSched.Proofs.Checked.Durations
import TierSched.Proofs.Rating

/-!
# The hull of the samples

The average of a runtime estimate is rounded down with every sample, and it is stored in a word. Neither
lets it escape from the samples: it lies between the least and the greatest of them, however many there
are and however long they are. This is so because a blend is monotone in its two parts, and because a
blend of equal parts is that part.

The first sample becomes the average and every later one is blended into it, because the number of samples
sticks at the largest word instead of starting again from zero.
-/

namespace TierSched.RuntimeEstimate

theorem blend_self (average : Nanos) : blend average average = average := by
  apply UInt64.toNat_inj.mp
  rw [toNat_blend]
  omega

/-- The estimate after several samples, in order. -/
def ofSamples (samples : List Nanos) : RuntimeEstimate :=
  samples.foldl add {}

theorem ofSamples_concat (earlier : List Nanos) (sample : Nanos) :
    ofSamples (earlier ++ [sample]) = (ofSamples earlier).add sample :=
  List.foldl_concat add {} sample earlier

/-- An estimate that has seen a sample never takes itself for a new one. -/
theorem samples_ofSamples_eq_zero_iff {samples : List Nanos} :
    (ofSamples samples).samples = 0 ↔ samples = [] := by
  constructor
  · intro none
    rcases List.eq_nil_or_concat' samples with rfl | ⟨earlier, sample, rfl⟩
    · rfl
    · rw [ofSamples_concat] at none
      exact absurd none (samples_add_ne_zero _ _)
  · rintro rfl
    rfl

theorem average_ofSamples_concat {earlier : List Nanos} (sampled : earlier ≠ []) (sample : Nanos) :
    (ofSamples (earlier ++ [sample])).average = blend (ofSamples earlier).average sample := by
  have counted : (ofSamples earlier).samples ≠ 0 := mt samples_ofSamples_eq_zero_iff.mp sampled
  rw [ofSamples_concat, add, if_neg counted]

/-- The average does not leave an interval that holds all samples. -/
theorem average_mem_interval {samples : List Nanos} (nonempty : samples ≠ []) {low high : Nanos}
    (within : ∀ sample ∈ samples, low ≤ sample ∧ sample ≤ high) :
    low ≤ (ofSamples samples).average ∧ (ofSamples samples).average ≤ high := by
  induction samples using List.reverseRecOn with
  | nil => contradiction
  | append_singleton earlier sample ih =>
      rcases within sample List.mem_concat_self with ⟨low_le_sample, sample_le_high⟩
      by_cases sampled : earlier = []
      · subst sampled
        exact ⟨low_le_sample, sample_le_high⟩
      · rw [average_ofSamples_concat sampled]
        rcases ih sampled fun old member => within old (List.mem_append_left _ member) with
          ⟨low_le_average, average_le_high⟩
        constructor
        · calc
            low = blend low low := (blend_self low).symm
            _ ≤ blend _ sample := blend_le_blend low_le_average low_le_sample
        · calc
            blend _ sample ≤ blend high high := blend_le_blend average_le_high sample_le_high
            _ = high := blend_self high

theorem exists_extremes {samples : List Nanos} (nonempty : samples ≠ []) :
    ∃ least greatest, IsLeast {sample | sample ∈ samples} least ∧
      IsGreatest {sample | sample ∈ samples} greatest := by
  have finite : {sample | sample ∈ samples}.Finite := List.finite_toSet samples
  have inhabited : {sample | sample ∈ samples}.Nonempty := List.exists_mem_of_ne_nil samples nonempty
  rcases Set.exists_min_image _ UInt64.toNat finite inhabited with ⟨least, leastMem, least_le⟩
  rcases Set.exists_max_image _ UInt64.toNat finite inhabited with ⟨greatest, greatestMem, le_greatest⟩
  refine ⟨least, greatest, ⟨leastMem, ?_⟩, ⟨greatestMem, ?_⟩⟩
  · intro sample member
    exact UInt64.le_iff_toNat_le.mpr (least_le sample member)
  · intro sample member
    exact UInt64.le_iff_toNat_le.mpr (le_greatest sample member)

theorem checkedAdd_samples (samples : List Nanos) :
    samples.foldlM checkedAdd {} = .ok (ofSamples samples) := by
  have lossless : checkedAdd = fun estimate sample => pure (estimate.add sample) :=
    funext₂ checkedAdd_eq
  rw [lossless, List.foldlM_pure]
  rfl

/-- The average of samples lies between the least and the greatest of them, and no average on the way
loses a bit when it is stored. From the second sample on, each one moves the average by an eighth of the
difference, rounded down; none is taken for a first one again. -/
theorem average_within_samples (samples : List Nanos) (nonempty : samples ≠ []) (next : Nanos) :
    (∃ least greatest, IsLeast {sample | sample ∈ samples} least ∧
        IsGreatest {sample | sample ∈ samples} greatest ∧
        least ≤ (ofSamples samples).average ∧ (ofSamples samples).average ≤ greatest) ∧
      samples.foldlM checkedAdd {} = .ok (ofSamples samples) ∧
      (ofSamples samples).samples ≠ 0 ∧
      (ofSamples (samples ++ [next])).average.toNat =
        (next.toNat + 7 * (ofSamples samples).average.toNat) / 8 := by
  refine ⟨?_, checkedAdd_samples samples, mt samples_ofSamples_eq_zero_iff.mp nonempty, ?_⟩
  · rcases exists_extremes nonempty with ⟨least, greatest, isLeast, isGreatest⟩
    have within := average_mem_interval nonempty fun sample member =>
      ⟨isLeast.2 member, isGreatest.2 member⟩
    exact ⟨least, greatest, isLeast, isGreatest, within.1, within.2⟩
  · rw [average_ofSamples_concat nonempty, toNat_blend]

/-- After so many runs of 80 microseconds that the number of samples would start again from zero, a run of
no length takes 10 microseconds off the average and does not replace it. -/
theorem average_within_samples_after_full_count :
    let samples : List Nanos := List.replicate (2 ^ 32) 80000
    samples ≠ [] ∧ samples.length = UInt32.size ∧ (ofSamples samples).average = 80000 ∧
      (ofSamples (samples ++ [0])).average = 70000 := by
  intro samples
  have nonempty : samples ≠ [] := mt (List.replicate_eq_nil_iff _).mp (by decide)
  rcases average_within_samples samples nonempty 0 with
    ⟨⟨least, greatest, isLeast, isGreatest, least_le, le_greatest⟩, _, _, next_eq⟩
  rw [List.eq_of_mem_replicate isLeast.1] at least_le
  rw [List.eq_of_mem_replicate isGreatest.1] at le_greatest
  have average_eq := UInt64.le_antisymm le_greatest least_le
  rw [average_eq] at next_eq
  exact ⟨nonempty, List.length_replicate, average_eq, UInt64.toNat_inj.mp next_eq⟩

end TierSched.RuntimeEstimate
