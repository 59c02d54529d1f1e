import Mathlib.Algebra.BigOperators.Group.List.Basic
import Mathlib.Data.UInt
import TierSched.Statistics.Basic

/-!
# Sums of counters

Tallies and counters form commutative monoids under merging, and to count an occurrence is to merge the
counters of this single occurrence. What is left of a list of occurrences is therefore a sum, in which
neither their order nor the shards that counted them can be seen. A counter that is additive is the sum
of what each occurrence adds to it, and most occurrences add one or nothing.
-/

namespace TierSched

theorem Nanos.toNat_max (left right : Nanos) :
    (max left right).toNat = max left.toNat right.toNat := by
  change (if left ≤ right then right else left).toNat = _
  simp only [UInt64.le_iff_toNat_le]
  split <;> omega

@[simp]
theorem nsmul_one_eq_ofNat (number : Nat) : number • (1 : UInt64) = .ofNat number := by
  induction number with
  | zero => rfl
  | succ number ih => rw [succ_nsmul, ih, UInt64.ofNat_add]; rfl

namespace WaitTally

theorem merge_assoc (first second third : WaitTally) :
    (first.merge second).merge third = first.merge (second.merge third) := by
  ext1
  · exact add_assoc first.total second.total third.total
  · exact add_assoc first.count second.count third.count
  · simp only [merge, ← UInt64.toNat_inj, Nanos.toNat_max]
    omega

theorem merge_comm (left right : WaitTally) : left.merge right = right.merge left := by
  ext1
  · exact add_comm left.total right.total
  · exact add_comm left.count right.count
  · simp only [merge, ← UInt64.toNat_inj, Nanos.toNat_max]
    omega

theorem merge_record (left right : WaitTally) (wait : Nanos) :
    left.merge (right.record wait) = (left.merge right).record wait := by
  rw [record_eq_merge_single, record_eq_merge_single, merge_assoc]

@[simp]
theorem zero_merge (tally : WaitTally) : zero.merge tally = tally := by
  ext1
  · exact zero_add tally.total
  · exact zero_add tally.count
  · simp [merge, zero, ← UInt64.toNat_inj, Nanos.toNat_max]

@[simp]
theorem merge_zero (tally : WaitTally) : tally.merge zero = tally := by
  simp [merge_comm tally]

instance : Zero WaitTally := ⟨zero⟩

theorem zero_def : zero = 0 := rfl

instance : Add WaitTally := ⟨merge⟩

instance : AddCommMonoid WaitTally where
  add_assoc := merge_assoc
  zero_add := zero_merge
  add_zero := merge_zero
  add_comm := merge_comm
  nsmul := nsmulRec

/-- The tally of a list of waits has their wrapping sum, their number and their maximum. -/
theorem sum_single (waits : List Nanos) :
    (waits.map single).sum = ⟨waits.sum, .ofNat waits.length, waits.foldr max 0⟩ := by
  induction waits with
  | nil => rfl
  | cons wait later ih =>
      rw [List.map_cons, List.sum_cons, ih, List.length_cons, Nat.add_comm, UInt64.ofNat_add]
      rfl

end WaitTally

namespace Tier.Table

variable {Value : Type} {combine : Value → Value → Value}

theorem zipWith_assoc
    (assoc : ∀ first second third,
      combine (combine first second) third = combine first (combine second third))
    (first second third : Table Value) :
    zipWith combine (zipWith combine first second) third =
      zipWith combine first (zipWith combine second third) := by
  ext tier
  simp only [get_zipWith]
  exact assoc _ _ _

theorem zipWith_replicate {value : Value} (neutral : ∀ other, combine other value = other)
    (table : Table Value) : zipWith combine table (replicate value) = table := by
  ext tier
  simp only [get_zipWith, get_replicate]
  exact neutral _

theorem zipWith_comm (symmetric : ∀ left right, combine left right = combine right left)
    (left right : Table Value) : zipWith combine left right = zipWith combine right left := by
  ext tier
  simp only [get_zipWith]
  exact symmetric _ _

@[simp]
theorem sum_replicate_zero : (replicate (0 : UInt64)).toList.sum = 0 := rfl

@[simp]
theorem sum_set_replicate_zero (tier : Tier) (value : UInt64) :
    ((replicate 0).set tier value).toList.sum = value := by
  cases tier <;> simp [toList_eq_map, all, get_set]

theorem sum_zipWith_add (left right : Table UInt64) :
    (zipWith (· + ·) left right).toList.sum = left.toList.sum + right.toList.sum := by
  have rows : (zipWith (· + ·) left right).get = fun tier => left.get tier + right.get tier :=
    funext fun tier => get_zipWith _ left right tier
  rw [toList_eq_map, rows, List.sum_map_add, toList_eq_map, toList_eq_map]

/-- A change that passes through the combination of two values passes through that of two rows. -/
theorem zipWith_modify {change : Value → Value}
    (passes : ∀ left right, combine left (change right) = change (combine left right))
    (left right : Table Value) (tier : Tier) :
    zipWith combine left (right.modify tier change) =
      (zipWith combine left right).modify tier change := by
  ext read
  simp only [get_zipWith, get_modify]
  split
  · exact passes _ _
  · rfl

end Tier.Table

namespace Counters

theorem merge_comm (left right : Counters) : left.merge right = right.merge left := by
  simp only [merge, mk.injEq]
  refine ⟨add_comm _ _, add_comm _ _, Tier.Table.zipWith_comm add_comm _ _, add_comm _ _,
    add_comm _ _, add_comm _ _, add_comm _ _, add_comm _ _,
    Tier.Table.zipWith_comm WaitTally.merge_comm _ _, Tier.Table.zipWith_comm add_comm _ _,
    add_comm _ _, add_comm _ _⟩

/-- It does not matter which of two shards counts an occurrence. -/
theorem merge_record (left right : Counters) (occurrence : Occurrence) :
    left.merge (right.record occurrence) = (left.merge right).record occurrence := by
  have plus_one : ∀ first second : UInt64, first + (second + 1) = first + second + 1 :=
    fun first second => (add_assoc first second 1).symm
  cases occurrence with
  | dispatch tier direct =>
      cases direct <;> simp [merge, record, plus_one, Tier.Table.zipWith_modify plus_one]
  | enqueue wakeup => cases wakeup <;> simp [merge, record, plus_one]
  | reclassification source target =>
      simp only [record]
      split
      · simp [merge, plus_one]
      · split
        · simp [merge, plus_one]
        · rfl
  | waitDemotion => simp [merge, record, plus_one]
  | wait tier duration =>
      have passes : ∀ first second : WaitTally, first.merge (second.record duration) =
          (first.merge second).record duration :=
        fun first second => first.merge_record second duration
      simp [merge, record, Tier.Table.zipWith_modify passes]
  | starvationKick tier => simp [merge, record, Tier.Table.zipWith_modify plus_one]
  | victimKick => simp [merge, record, plus_one]
  | fallback => simp [merge, record, plus_one]

theorem record_merge (left right : Counters) (occurrence : Occurrence) :
    (left.record occurrence).merge right = (left.merge right).record occurrence := by
  rw [merge_comm, merge_record, merge_comm]

theorem foldl_merge_record (shards : List Counters) (sum : Counters) (occurrence : Occurrence) :
    shards.foldl merge (sum.record occurrence) = (shards.foldl merge sum).record occurrence := by
  induction shards generalizing sum with
  | nil => rfl
  | cons shard others ih =>
      simp only [List.foldl_cons]
      rw [record_merge, ih]

theorem foldl_merge_set (shards : List Counters) (sum : Counters) (occurrence : Occurrence)
    {position : Nat} (exist : position < shards.length) :
    (shards.set position (shards[position].record occurrence)).foldl merge sum =
      (shards.foldl merge sum).record occurrence := by
  induction shards generalizing sum position with
  | nil => simp at exist
  | cons shard others ih =>
      cases position with
      | zero =>
          simp only [List.set_cons_zero, List.getElem_cons_zero, List.foldl_cons]
          rw [merge_record, foldl_merge_record]
      | succ later =>
          simp only [List.set_cons_succ, List.getElem_cons_succ, List.foldl_cons]
          exact ih _ _

theorem merge_assoc (first second third : Counters) :
    (first.merge second).merge third = first.merge (second.merge third) := by
  simp only [merge, mk.injEq]
  refine ⟨add_assoc _ _ _, add_assoc _ _ _, Tier.Table.zipWith_assoc add_assoc _ _ _,
    add_assoc _ _ _, add_assoc _ _ _, add_assoc _ _ _, add_assoc _ _ _, add_assoc _ _ _,
    Tier.Table.zipWith_assoc WaitTally.merge_assoc _ _ _,
    Tier.Table.zipWith_assoc add_assoc _ _ _, add_assoc _ _ _, add_assoc _ _ _⟩

@[simp]
theorem merge_zero (counters : Counters) : counters.merge zero = counters := by
  simp [merge, zero, Tier.Table.zipWith_replicate add_zero,
    Tier.Table.zipWith_replicate WaitTally.merge_zero]

instance : Zero Counters := ⟨zero⟩

instance : Add Counters := ⟨merge⟩

instance : AddCommMonoid Counters where
  add_assoc := merge_assoc
  zero_add := fun counters => (merge_comm zero counters).trans counters.merge_zero
  add_zero := merge_zero
  add_comm := merge_comm
  nsmul := nsmulRec

theorem kicks_eq (counters : Counters) :
    counters.kicks = counters.victimKicks + counters.starvationKicks.toList.sum := by
  rw [kicks, List.sum_eq_foldl]

/-- The counters of a single occurrence. -/
def single (occurrence : Occurrence) : Counters :=
  zero.record occurrence

section Single

variable (tier source target : Tier)

@[simp]
theorem single_dispatch (direct : Bool) :
    single (.dispatch tier direct) =
      { dispatches := 1, directDispatches := if direct then 1 else 0
        tierDispatches := (Tier.Table.replicate 0).set tier 1 } := by
  cases direct <;> simp [single, record, zero, Tier.Table.modify]

@[simp]
theorem single_enqueue (wakeup : Bool) :
    single (.enqueue wakeup) =
      { wakeupEnqueues := if wakeup then 1 else 0, requeueEnqueues := if wakeup then 0 else 1 } := by
  cases wakeup <;> rfl

@[simp]
theorem single_reclassification :
    single (.reclassification source target) =
      { promotions := if target < source then 1 else 0
        demotions := if source < target then 1 else 0 } := by
  simp only [single, record]
  split
  · rename_i above
    have unbelow : ¬source < target := Fin.lt_asymm above
    simp [zero, unbelow]
  · split
    · simp [zero]
    · rfl

@[simp]
theorem single_waitDemotion : single .waitDemotion = { demotions := 1, waitDemotions := 1 } := rfl

@[simp]
theorem single_wait (duration : Nanos) :
    single (.wait tier duration) =
      { waits := (Tier.Table.replicate .zero).set tier (.single duration) } := by
  simp [single, record, zero, Tier.Table.modify, WaitTally.record_eq_merge_single]

@[simp]
theorem single_starvationKick :
    single (.starvationKick tier) =
      { starvationKicks := (Tier.Table.replicate 0).set tier 1 } := by
  simp [single, record, zero, Tier.Table.modify]

@[simp]
theorem single_victimKick : single .victimKick = { victimKicks := 1 } := rfl

@[simp]
theorem single_fallback : single .fallback = { fallbacks := 1 } := rfl

end Single

theorem record_eq_add_single (counters : Counters) (occurrence : Occurrence) :
    counters.record occurrence = counters + single occurrence := by
  have passes := counters.merge_record zero occurrence
  rw [merge_zero] at passes
  exact passes.symm

theorem foldl_record (counters : Counters) (occurrences : List Occurrence) :
    occurrences.foldl record counters = counters + (occurrences.map single).sum := by
  induction occurrences generalizing counters with
  | nil => simp
  | cons occurrence later ih => simp [ih, record_eq_add_single, add_assoc]

/-- A counter that some occurrences advance by one holds the number of these occurrences. -/
theorem read_sum_single (read : Counters → UInt64) (read_zero : read 0 = 0)
    (read_add : ∀ left right, read (left + right) = read left + read right)
    {counts : Occurrence → Bool}
    (read_single : ∀ occurrence, read (single occurrence) = if counts occurrence then 1 else 0)
    (occurrences : List Occurrence) :
    read (occurrences.map single).sum = .ofNat (occurrences.countP counts) := by
  induction occurrences with
  | nil => exact read_zero
  | cons occurrence later ih =>
      simp only [List.map_cons, List.sum_cons, read_add, ih, read_single, List.countP_cons]
      split
      · exact ((UInt64.ofNat_add _ 1).trans (add_comm _ _)).symm
      · exact zero_add _

end Counters

end TierSched
