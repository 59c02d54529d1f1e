import TierSched.Proofs.Bypass
import TierSched.Proofs.Drain
import TierSched.Proofs.QueueStep

/-!
# In which order live entries are served

A request for work can make many attempts, each of them with an order of its own, and what it discards
on the way is stale. So everything that was live before the request still waits at its last attempt,
and only the order of this attempt decides what is handed out: the first live entry of the first tier
in this order that has one. A tier of higher priority is passed over only at a turn of the low tiers.
-/

namespace TierSched

namespace ReadyQueues

/-- The latest attempt was a turn of the low tiers exactly if its number is a multiple of the interval. -/
theorem order_eq (queues : ReadyQueues) :
    queues.order =
      if queues.interval.toNat ∣ queues.attempts.toNat then lowTiersFirst else Tier.all := by
  simp only [order, ← UInt64.toNat_inj, UInt64.toNat_mod, Nat.dvd_iff_mod_eq_zero]
  rfl

/-- Nothing precedes the lowest tier at a turn of the low tiers, and any other tier is preceded by the
two low tiers and by tiers of higher priority only. -/
theorem low_of_mem_preceding {first later : Tier} (precedes : first ∈ preceding later) :
    later ≠ .background ∧ (first = .background ∨ first = .batch ∨ first < later) := by
  revert precedes
  cases first <;> cases later <;> decide

/-- An attempt passes over a tier of higher priority at a turn of the low tiers only. -/
theorem turn_of_passedOver {queues rest : ReadyQueues} (consistent : queues.Consistent)
    {source passed : Tier} {entry : Entry} (popped : queues.pop = (some (source, entry), rest))
    (higher : passed < source) (waits : queues.entries passed ≠ []) :
    queues.interval.toNat ∣ rest.attempts.toNat ∧
      (source = .background ∨ source = .batch ∧ queues.entries .background = []) := by
  have order_eq : queues.advance.order =
      if queues.interval.toNat ∣ rest.attempts.toNat then lowTiersFirst else Tier.all := by
    rw [attempts_of_pop popped]
    exact queues.advance.order_eq
  split at order_eq
  · rename_i turn
    have ordered : queues.advance.order.Pairwise fun first later => first ∈ preceding later := by
      rw [order_eq]
      exact mem_preceding_of_lowTurn
    refine ⟨turn, ?_⟩
    rcases first_of_pop consistent ordered popped waits with rfl | precedes
    · exact absurd higher (Fin.lt_irrefl source.rank)
    · rcases (low_of_mem_preceding precedes).2 with lowest | low | lower
      · exact Or.inl lowest
      · refine Or.inr ⟨low, ?_⟩
        by_contra lowestWaits
        rcases first_of_pop consistent ordered popped lowestWaits with same | precedesLowest
        · rw [low] at same
          contradiction
        · exact (low_of_mem_preceding precedesLowest).1 rfl
      · exact absurd higher (Fin.lt_asymm lower)
  · have ordered : queues.advance.order.Pairwise (· < ·) := by
      rw [order_eq]
      decide
    rcases first_of_pop consistent ordered popped waits with rfl | lower
    · exact absurd higher (Fin.lt_irrefl source.rank)
    · exact absurd higher (Fin.lt_asymm lower)

end ReadyQueues

/-- What a search finds is taken by its last attempt. -/
theorem last_attempt_of_taken (queues : ReadyQueues) (roster : Roster) {tier : Tier} {entry : Entry}
    (consistent : queues.Consistent) (taken : (draw queues roster).taken = some (tier, entry)) :
    ∃ last : ReadyQueues, last.Consistent ∧ last.interval = queues.interval ∧
      last.pop = (some (tier, entry), (draw queues roster).queues) := by
  induction queues, roster using draw_induction with
  | exhausted queues roster rest popped => contradiction
  | found queues roster rest source front popped live =>
      rw [← taken]
      exact ⟨queues, consistent, rfl, popped⟩
  | discarded queues roster rest source front further popped stale ih =>
      rcases ih (consistent.of_pop popped) taken with ⟨last, lastConsistent, interval_eq, found⟩
      rw [ReadyQueues.interval_of_pop popped] at interval_eq
      exact ⟨last, lastConsistent, interval_eq, found⟩

/-- Only stale entries are gone when the last attempt is made. -/
theorem Draw.Sound.entries_last {queues : ReadyQueues} {roster : Roster} {drawn : Draw}
    (sound : drawn.Sound queues roster) {source : Tier} {entry : Entry}
    (taken : drawn.taken = some (source, entry)) {last : ReadyQueues}
    (popped : last.pop = (some (source, entry), drawn.queues)) (tier : Tier) :
    ∃ stale, (∀ gone ∈ stale, ¬roster.Live gone) ∧
      queues.entries tier = stale ++ last.entries tier := by
  rcases sound.entries_eq tier with ⟨stale, allStale, split⟩
  refine ⟨stale, allStale, split.trans ?_⟩
  rw [ReadyQueues.entries_of_pop popped tier, Draw.takenFrom, taken, List.append_assoc]

namespace Scheduler

/-- A live entry waits in the tier. -/
def HoldsLive (scheduler : Scheduler) (tier : Tier) : Prop :=
  ∃ entry ∈ scheduler.queues.entries tier, scheduler.roster.Live entry

instance (scheduler : Scheduler) (tier : Tier) : Decidable (scheduler.HoldsLive tier) :=
  inferInstanceAs (Decidable (∃ entry ∈ scheduler.queues.entries tier, scheduler.roster.Live entry))

/-- The tier is one of the two low ones, and its turn came with the latest attempt: the number of the
attempt is a multiple of the interval, and the lowest tier comes first. -/
def LowTurn (scheduler after : Scheduler) (interval : UInt64) (tier : Tier) : Prop :=
  interval.toNat ∣ after.queues.attempts.toNat ∧
    (tier = .background ∨ tier = .batch ∧ ¬scheduler.HoldsLive .background)

/-- What is handed out for a request is the first live entry of its tier, and a tier of higher priority
that held a live entry is passed over at a turn of the low tiers only. -/
structure ServedInOrder (scheduler : Scheduler) (interval : UInt64) (assignment : Assignment)
    (after : Scheduler) : Prop where
  first : ∃ stale entry behind, ∃ last : ReadyQueues,
    scheduler.queues.entries assignment.tier = stale ++ entry :: behind ∧
      (∀ gone ∈ stale, ¬scheduler.roster.Live gone) ∧ scheduler.roster.Live entry ∧
        assignment = Assignment.ofFound (assignment.tier, entry) ∧
          last.pop = (some (assignment.tier, entry), after.queues)
  passedOver : ∀ tier < assignment.tier, scheduler.HoldsLive tier →
    scheduler.LowTurn after interval assignment.tier
  highest : ¬scheduler.LowTurn after interval assignment.tier →
    scheduler.HoldsLive assignment.tier ∧
      ∀ tier, scheduler.HoldsLive tier → assignment.tier ≤ tier

theorem served_in_order {scheduler : Scheduler} {assignment : Assignment} {unit : Nat}
    (consistent : scheduler.queues.Consistent)
    (answered : (scheduler.dispatch unit).reply = some assignment) :
    scheduler.ServedInOrder scheduler.queues.interval assignment
      (scheduler.dispatch unit).scheduler := by
  rw [reply_dispatch, Option.map_eq_some_iff] at answered
  rcases answered with ⟨⟨source, entry⟩, taken, rfl⟩
  have sound := draw_sound scheduler.queues scheduler.roster
  rcases last_attempt_of_taken scheduler.queues scheduler.roster consistent taken with
    ⟨last, lastConsistent, interval_eq, popped⟩
  have waits : ∀ tier, scheduler.HoldsLive tier → last.entries tier ≠ [] := by
    rintro tier ⟨other, member, live⟩ empty
    rcases sound.entries_last taken popped tier with ⟨stale, allStale, split⟩
    rw [split, empty, List.append_nil] at member
    exact allStale other member live
  rcases sound.entries_last taken popped source with ⟨stale, allStale, split⟩
  rw [ReadyQueues.entries_of_pop popped source, if_pos rfl] at split
  have live := sound.live source entry taken
  rw [← scheduler.queues_dispatch unit] at popped
  have passedOver : ∀ tier < source, scheduler.HoldsLive tier →
      scheduler.LowTurn (scheduler.dispatch unit).scheduler scheduler.queues.interval source := by
    intro tier higher holds
    rw [← interval_eq]
    rcases ReadyQueues.turn_of_passedOver lastConsistent popped higher (waits tier holds) with
      ⟨turn, lowest | ⟨low, empty⟩⟩
    · exact ⟨turn, Or.inl lowest⟩
    · exact ⟨turn, Or.inr ⟨low, fun lowestHolds => waits .background lowestHolds empty⟩⟩
  refine ⟨?_, passedOver, ?_⟩
  · exact ⟨stale, entry, _, last, split, allStale, live, rfl, popped⟩
  · intro noTurn
    refine ⟨⟨entry, ?_, live⟩, ?_⟩
    · rw [split]
      simp
    · intro tier holds
      apply Fin.not_lt.mp
      intro higher
      exact noTurn (passedOver tier higher holds)

end Scheduler

namespace Execution

/-- In every state that can be reached, requests for work serve the live entries in order. -/
theorem dispatch_in_order (execution : Execution) (unit : Nat) (assignment : Assignment)
    (answered : (execution.scheduler.dispatch unit).reply = some assignment) :
    execution.scheduler.ServedInOrder execution.config.lowTierInterval assignment
      (execution.scheduler.dispatch unit).scheduler := by
  have served := Scheduler.served_in_order execution.consistent answered
  have long := execution.accepted.two_le_lowTierInterval
  have interval_eq := execution.toNat_interval
  rw [UInt64.le_iff_toNat_le] at long
  change 2 ≤ execution.config.lowTierInterval.toNat at long
  rw [Nat.max_eq_left (by omega), UInt64.toNat_inj] at interval_eq
  rwa [interval_eq] at served

/-- A stale entry in front, and a task of the lowest tier that is served before a waiting one of a
higher tier. -/
theorem dispatch_in_order_of_stale_front :
    let execution := ofConfig { lowTierInterval := 2 } (by decide)
      [(0, .start 0 1), (10000000, .stop 0 1 true), (10000000, .start 0 1),
        (20000000, .stop 0 1 true), (20000000, .start 0 1), (30000000, .stop 0 1 true),
        (30000000, .start 0 1), (40000000, .stop 0 1 true),
        (40000000, .enqueue 1 ⟨false, false, false⟩),
        (40000000, .enqueue 2 ⟨true, false, false⟩), (40000000, .wake 2 none ⟨false, false⟩),
        (40000000, .enqueue 3 ⟨true, false, false⟩)]
    execution.scheduler.HoldsLive .interactive ∧
      (execution.scheduler.dispatch 0).reply = some ⟨1, 2600000, .background⟩ ∧
        execution.scheduler.ServedInOrder 2 ⟨1, 2600000, .background⟩
          (execution.scheduler.dispatch 0).scheduler := by
  intro execution
  have answered : (execution.scheduler.dispatch 0).reply = some ⟨1, 2600000, .background⟩ := by
    decide +kernel
  refine ⟨?_, answered, execution.dispatch_in_order 0 _ answered⟩
  decide +kernel

end Execution

end TierSched
