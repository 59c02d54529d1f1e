import TierSched.Proofs.Counting

/-!
# Shards cannot be seen

Only the sum of all shards is ever shown, and `Statistics.Records.toCounters_eq_sum` says that it is the
sum of the counters of the single occurrences. So neither the number of shards nor the hints nor the
order of the occurrences make a difference.
-/

namespace TierSched

namespace Statistics

/-- The statistics after a sequence of occurrences, each with the hint under which it is counted. -/
def recordHinted (statistics : Statistics) (hinted : List (Nat × Occurrence)) : Statistics :=
  hinted.foldl (fun counted call => counted.record call.1 call.2) statistics

theorem records_recordHinted (statistics : Statistics) (hinted : List (Nat × Occurrence)) :
    Records statistics (hinted.map Prod.snd) (statistics.recordHinted hinted) := by
  induction hinted generalizing statistics with
  | nil => exact .nil _
  | cons call later ih => exact .cons call.1 (ih _)

theorem toCounters_summary (statistics : Statistics) :
    statistics.summary.toCounters = statistics.shards.toList.sum := by
  simp only [summary, ← Array.foldl_toList, List.sum_eq_foldl]
  rfl

@[simp]
theorem toCounters_initial (units : Nat) (enabled : Bool) :
    (initial units enabled).summary.toCounters = 0 := by
  rw [toCounters_summary, initial, Array.toList_replicate, List.sum_replicate]
  exact nsmul_zero _

theorem Records.toCounters_eq_sum {before after : Statistics} {occurrences : List Occurrence}
    (records : Records before occurrences after) (enabled : before.enabled = true) :
    after.summary.toCounters = before.summary.toCounters + (occurrences.map Counters.single).sum := by
  rw [records.toCounters_eq enabled, Counters.foldl_record]

theorem summary_eq_of_toCounters_eq {left right : Statistics}
    (same : left.summary.toCounters = right.summary.toCounters) : left.summary = right.summary := by
  simp only [summary] at same ⊢
  rw [same]

/-- Neither the number of shards nor the hints nor the order of the occurrences can be seen from the
summary. Tallies of waits form a commutative monoid, in which a wait is recorded by merging the tally of
this single wait. -/
theorem sharding_unobservable :
    (∀ (units others : Nat) (hinted rehinted : List (Nat × Occurrence)),
      (hinted.map Prod.snd).Perm (rehinted.map Prod.snd) →
        ((initial units true).recordHinted hinted).summary =
          ((initial others true).recordHinted rehinted).summary) ∧
    (∀ first second third : WaitTally,
      (first.merge second).merge third = first.merge (second.merge third)) ∧
    (∀ left right : WaitTally, left.merge right = right.merge left) ∧
    (∀ tally : WaitTally, WaitTally.zero.merge tally = tally ∧ tally.merge .zero = tally) ∧
    ∀ (tally : WaitTally) (wait : Nanos), tally.record wait = tally.merge (.single wait) := by
  refine ⟨?_, WaitTally.merge_assoc, WaitTally.merge_comm, ?_, WaitTally.record_eq_merge_single⟩
  · intro units others hinted rehinted same
    have left := (initial units true).records_recordHinted hinted
    have right := (initial others true).records_recordHinted rehinted
    apply summary_eq_of_toCounters_eq
    rw [left.toCounters_eq_sum rfl, right.toCounters_eq_sum rfl, toCounters_initial,
      toCounters_initial]
    exact congrArg (0 + ·) (same.map Counters.single).sum_eq
  · intro tally
    exact ⟨tally.zero_merge, tally.merge_zero⟩

/-- Two waits and two kicks, counted by statistics that were set up for no unit, and in another order
on three shards. -/
theorem sharding_unobservable_of_reordered_calls :
    let hinted : List (Nat × Occurrence) :=
      [(0, .wait .gaming 7), (5, .victimKick), (2, .starvationKick .batch), (9, .wait .gaming 5)]
    let rehinted : List (Nat × Occurrence) :=
      [(4, .starvationKick .batch), (4, .wait .gaming 5), (0, .wait .gaming 7), (3, .victimKick)]
    (hinted.map Prod.snd).Perm (rehinted.map Prod.snd) ∧
      ((initial 0 true).recordHinted hinted).summary =
        ((initial 3 true).recordHinted rehinted).summary ∧
      ((initial 3 true).recordHinted rehinted).summary.forcedKicks = 2 ∧
      ((initial 3 true).recordHinted rehinted).summary.waits.get .gaming = ⟨12, 2, 7⟩ := by
  intro hinted rehinted
  have same : (hinted.map Prod.snd).Perm (rehinted.map Prod.snd) := by decide
  refine ⟨same, sharding_unobservable.1 0 3 hinted rehinted same, ?_, ?_⟩
  · decide +kernel
  · decide +kernel

end Statistics

end TierSched
