import Mathlib.Algebra.Order.BigOperators.Group.List
import Mathlib.Algebra.Order.Ring.Nat
import TierSched.Proofs.QueueOperation

/-!
# How long an entry can be passed over

Under strict priority an entry of a low tier can be passed over as long as there is work of a higher
tier. The attempts that serve the low tiers first put an end to this: among as many attempts in a row
as the interval, one has a number that is a multiple of it. This is also so where the counter starts
again from zero, since zero is a multiple of every interval.

`Place.patience` bounds the attempts for which an entry can still be passed over. It counts one
interval for each entry that comes before it when the low tiers are served first, in its own lane or in
the lanes of the `preceding` tiers, and the attempts up to the next turn of the low tiers. An attempt at
such a turn removes one of these entries, and any other attempt brings the turn closer. So every attempt
uses up some of the patience, whatever it takes, and only a push to a preceding tier adds to it.
-/

namespace TierSched

namespace ReadyQueues

/-- The number of attempts up to the next one that serves the low tiers first, which is at the latest
the one at which the counter starts again. -/
def untilLowTurn (queues : ReadyQueues) : Nat :=
  min (queues.interval.toNat - queues.attempts.toNat % queues.interval.toNat)
    (UInt64.size - queues.attempts.toNat)

theorem interval_pos (queues : ReadyQueues) : 0 < queues.interval.toNat := by
  have positive := queues.interval_ne_zero
  rw [ne_eq, ← UInt64.toNat_inj] at positive
  exact Nat.pos_of_ne_zero positive

theorem untilLowTurn_pos (queues : ReadyQueues) : 0 < queues.untilLowTurn := by
  have below := Nat.mod_lt queues.attempts.toNat queues.interval_pos
  have bound := queues.attempts.toNat_lt_size
  simp only [untilLowTurn]
  omega

theorem untilLowTurn_le (queues : ReadyQueues) : queues.untilLowTurn ≤ queues.interval.toNat := by
  simp only [untilLowTurn]
  omega

theorem succ_mod_of_ne_zero {number period : Nat} (positive : 0 < period)
    (inside : (number + 1) % period ≠ 0) : (number + 1) % period = number % period + 1 := by
  have below := Nat.mod_lt number positive
  rw [← Nat.mod_add_mod] at inside ⊢
  have notLast : number % period + 1 ≠ period := by
    intro last
    simp [last] at inside
  apply Nat.mod_eq_of_lt
  omega

/-- An attempt serves the low tiers first, or it brings the next one that does closer. -/
theorem untilLowTurn_of_pop {queues rest : ReadyQueues} {taken : Option (Tier × Entry)}
    (popped : queues.pop = (taken, rest)) :
    queues.advance.order = lowTiersFirst ∨ rest.untilLowTurn + 1 = queues.untilLowTurn := by
  by_cases lowTurn : (queues.attempts + 1) % queues.interval = 0
  · exact Or.inl (if_pos lowTurn)
  · right
    have bound := queues.attempts.toNat_lt_size
    have counted : (queues.attempts + 1).toNat = (queues.attempts.toNat + 1) % UInt64.size :=
      UInt64.toNat_add queues.attempts 1
    rw [← UInt64.toNat_inj, UInt64.toNat_mod, counted] at lowTurn
    change (queues.attempts.toNat + 1) % UInt64.size % queues.interval.toNat ≠ 0 at lowTurn
    -- zero is a multiple of the interval, so the counter has not started again
    have inRange : queues.attempts.toNat + 1 ≠ UInt64.size := by
      intro last
      simp [last] at lowTurn
    have small : queues.attempts.toNat + 1 < UInt64.size := by omega
    rw [Nat.mod_eq_of_lt small] at counted lowTurn
    have next := succ_mod_of_ne_zero queues.interval_pos lowTurn
    have below := Nat.mod_lt (queues.attempts.toNat + 1) queues.interval_pos
    simp only [untilLowTurn, attempts_of_pop popped, interval_of_pop popped, counted]
    omega

/-- The tiers that are served before a tier when the low tiers come first. -/
def preceding (tier : Tier) : List Tier :=
  lowTiersFirst.takeWhile (· ≠ tier)

/-- The number of entries in the lanes of some tiers. -/
def load (queues : ReadyQueues) (tiers : List Tier) : Nat :=
  (tiers.map fun tier => (queues.entries tier).length).sum

theorem load_push (queues : ReadyQueues) (tiers : List Tier) (written : Tier) (entry : Entry) :
    (queues.push written entry).load tiers = queues.load tiers + tiers.count written := by
  induction tiers with
  | nil => rfl
  | cons first others ih =>
      simp only [load, List.map_cons, List.sum_cons, entries_push, List.count_cons] at ih ⊢
      by_cases same : written = first
      · simp [same] at ih ⊢
        omega
      · simp [same, Ne.symm same] at ih ⊢
        omega

theorem load_drop_le (queues : ReadyQueues) (tiers : List Tier) (written : Tier) (task : TaskId) :
    (queues.drop written task).2.load tiers ≤ queues.load tiers := by
  apply List.sum_le_sum
  intro tier _
  rw [entries_drop]
  split
  · exact List.length_filter_le _ _
  · exact Nat.le_refl _

theorem load_of_pop {queues rest : ReadyQueues} {source : Tier} {entry : Entry}
    (popped : queues.pop = (some (source, entry), rest)) (tiers : List Tier) :
    rest.load tiers ≤ queues.load tiers ∧
      (source ∈ tiers → rest.load tiers < queues.load tiers) := by
  refine ⟨List.sum_le_sum ?_, fun member => List.sum_lt_sum _ _ ?_ ⟨source, member, ?_⟩⟩
  · intro tier _
    rw [entries_of_pop popped tier, List.length_append]
    omega
  · intro tier _
    rw [entries_of_pop popped tier, List.length_append]
    omega
  · rw [entries_of_pop popped source, if_pos rfl, List.length_append, List.length_singleton]
    omega

theorem mem_preceding_of_lowTurn :
    lowTiersFirst.Pairwise fun first later => first ∈ preceding later := by
  decide

/-- The operation pushes an entry to the lane of one of the tiers. -/
def Operation.pushesTo (tiers : List Tier) : Operation → Bool
  | push tier _ => tiers.contains tier
  | pop | drop _ _ => false

/-- Nothing is pushed in front of the entries of the lowest tier. -/
theorem Operation.countP_pushesTo_background (operations : List Operation) :
    operations.countP (pushesTo (preceding .background)) = 0 := by
  rw [List.countP_eq_zero]
  intro operation _ pushes
  cases operation with
  | push tier entry => contradiction
  | pop => contradiction
  | drop tier task => contradiction

end ReadyQueues

open ReadyQueues (Operation preceding)

namespace Place

/-- A bound on the attempts for which the entry at a place can be passed over, when so many entries
are still to be pushed to the tiers that precede it. -/
def patience (place : Place) (queues : ReadyQueues) (tier : Tier) (pending : Nat) : Nat :=
  (queues.load (preceding tier) + pending + place.ahead.length) * queues.interval.toNat +
    queues.untilLowTurn

variable {place next : Place} {queues : ReadyQueues} {tier : Tier}

theorem patience_le (pending : Nat) :
    place.patience queues tier pending ≤
      (queues.load (preceding tier) + pending + place.ahead.length + 1) *
        queues.interval.toNat := by
  have turn := queues.untilLowTurn_le
  rw [patience, Nat.succ_mul]
  omega

theorem patience_le_of_attempts {after : ReadyQueues} {pending rest : Nat}
    (attempts_eq : after.attempts = queues.attempts) (interval_eq : after.interval = queues.interval)
    (fewer : after.load (preceding tier) + rest + next.ahead.length ≤
      queues.load (preceding tier) + pending + place.ahead.length) :
    next.patience after tier rest ≤ place.patience queues tier pending := by
  simp only [patience, ReadyQueues.untilLowTurn, attempts_eq, interval_eq]
  exact Nat.add_le_add_right (Nat.mul_le_mul_right _ fewer) _

theorem entries_ne_nil (located : place.lane = queues.entries tier) : queues.entries tier ≠ [] := by
  rw [← located]
  simp [lane]

/-- An attempt puts nothing in front of an entry, and at a turn of the low tiers one of the entries in
front is gone. -/
theorem fewer_in_front_of_pop (consistent : queues.Consistent)
    (located : place.lane = queues.entries tier) {rest : ReadyQueues} {source : Tier}
    {front : Entry} (popped : queues.pop = (some (source, front), rest))
    (followed : place.follow queues tier .pop = some next) :
    rest.load (preceding tier) + next.ahead.length ≤
        queues.load (preceding tier) + place.ahead.length ∧
      (queues.advance.order = ReadyQueues.lowTiersFirst →
        rest.load (preceding tier) + next.ahead.length + 1 ≤
          queues.load (preceding tier) + place.ahead.length) := by
  simp only [follow, popped, Option.map_some, Option.some.injEq] at followed
  rcases ReadyQueues.load_of_pop popped (preceding tier) with ⟨lighter, lighterOf⟩
  by_cases own : source = tier
  · rw [if_pos own] at followed
    have nearer := (advance?_eq_some followed).2.1
    omega
  · rw [if_neg own, Option.some.injEq] at followed
    rw [followed] at located ⊢
    refine ⟨by omega, ?_⟩
    intro lowTurn
    have ordered := ReadyQueues.mem_preceding_of_lowTurn
    rw [← lowTurn] at ordered
    rcases ReadyQueues.first_of_pop consistent ordered popped (entries_ne_nil located) with
      same | first
    · exact absurd same own
    · have := lighterOf first
      omega

/-- Every attempt that does not take the entry uses up some of its patience. -/
theorem patience_pop (consistent : queues.Consistent) (located : place.lane = queues.entries tier)
    (followed : place.follow queues tier .pop = some next) (pending : Nat) :
    next.patience (queues.perform .pop) tier pending + 1 ≤ place.patience queues tier pending := by
  have waits := entries_ne_nil located
  have turn := queues.untilLowTurn_pos
  rcases popped : queues.pop with ⟨_ | ⟨source, front⟩, rest⟩
  · exact absurd (ReadyQueues.entries_eq_nil_of_pop_eq_none consistent popped tier) waits
  · rcases fewer_in_front_of_pop consistent located popped followed with ⟨fewer, fewerAtTurn⟩
    simp only [patience, ReadyQueues.perform, popped, ReadyQueues.interval_of_pop popped]
    -- either an entry in front is gone, or the next turn of the low tiers is closer
    rcases ReadyQueues.untilLowTurn_of_pop popped with lowTurn | closer
    · have fewer : rest.load (preceding tier) + pending + next.ahead.length + 1 ≤
          queues.load (preceding tier) + pending + place.ahead.length := by
        have := fewerAtTurn lowTurn
        omega
      have scaled := Nat.mul_le_mul_right queues.interval.toNat fewer
      have nextTurn := rest.untilLowTurn_le
      rw [Nat.succ_mul] at scaled
      rw [ReadyQueues.interval_of_pop popped] at nextTurn
      omega
    · have fewer : rest.load (preceding tier) + pending + next.ahead.length ≤
          queues.load (preceding tier) + pending + place.ahead.length := by omega
      have scaled := Nat.mul_le_mul_right queues.interval.toNat fewer
      omega

theorem taken_or_closer {rest : ReadyQueues} {taken : Option (Tier × Entry)}
    (consistent : queues.Consistent) (located : place.lane = queues.entries tier)
    (popped : queues.pop = (taken, rest)) :
    taken = some (tier, place.entry) ∨
      ∃ next : Place, next.entry = place.entry ∧ next.lane = rest.entries tier ∧
        next.patience rest tier 0 + 1 ≤ place.patience queues tier 0 := by
  cases followed : place.follow queues tier .pop with
  | none =>
      rcases removed_of_follow located followed with ⟨_, _, front⟩ | impossible
      · rw [popped] at front
        exact Or.inl front
      · contradiction
  | some next =>
      have closer := patience_pop consistent located followed 0
      rcases lane_follow located followed with ⟨entry_eq, nextLocated⟩
      rw [ReadyQueues.perform, popped] at closer nextLocated
      exact Or.inr ⟨next, entry_eq, nextLocated, closer⟩

theorem patience_push (written : Tier) (entry : Entry)
    (followed : place.follow queues tier (.push written entry) = some next) (pending : Nat) :
    next.patience (queues.push written entry) tier pending ≤
      place.patience queues tier
        (pending + if (preceding tier).contains written then 1 else 0) := by
  refine patience_le_of_attempts ?_ ?_ ?_
  · rfl
  · rfl
  have distinct : (preceding tier).Nodup :=
    (List.takeWhile_sublist _).nodup (by decide : ReadyQueues.lowTiersFirst.Nodup)
  have same : next.ahead = place.ahead := by
    rw [← Option.some.inj followed]
    split <;> rfl
  rw [ReadyQueues.load_push, distinct.count, same]
  simp only [List.contains_iff_mem]
  omega

theorem patience_drop (written : Tier) (task : TaskId)
    (followed : place.follow queues tier (.drop written task) = some next) (pending : Nat) :
    next.patience (queues.drop written task).2 tier pending ≤
      place.patience queues tier pending := by
  refine patience_le_of_attempts ?_ ?_ ?_
  · rfl
  · rfl
  have lighter := queues.load_drop_le (preceding tier) written task
  have nearer : next.ahead.length ≤ place.ahead.length := by
    simp only [follow] at followed
    split at followed
    · exact (without?_eq_some followed).2.1
    · rw [Option.some.inj followed]
  omega

/-- An entry that is still there has had patience for all attempts so far. -/
theorem patience_followAll {operations : List Operation} (consistent : queues.Consistent)
    (located : place.lane = queues.entries tier)
    (followed : place.followAll queues tier operations = some next) (pending : Nat) :
    next.patience (queues.performAll operations) tier pending + operations.count .pop ≤
      place.patience queues tier
        (pending + operations.countP (Operation.pushesTo (preceding tier))) := by
  induction operations generalizing place queues with
  | nil =>
      rw [← Option.some.inj followed]
      exact Nat.le_refl _
  | cons operation later ih =>
      rw [followAll] at followed
      split at followed
      · contradiction
      · rename_i moved movedEq
        have rest := ih (consistent.perform operation) (lane_follow located movedEq).2 followed
        rw [List.count_cons, List.countP_cons]
        -- the pushes that are still to come are pending, so no operation adds to the patience
        cases operation with
        | push written entry =>
            have first := patience_push written entry movedEq
              (pending + later.countP (Operation.pushesTo (preceding tier)))
            rw [Nat.add_assoc] at first
            exact rest.trans first
        | pop =>
            have first := patience_pop consistent located movedEq
              (pending + later.countP (Operation.pushesTo (preceding tier)))
            simp only [Operation.pushesTo, beq_self_eq_true, if_true, Bool.false_eq_true,
              if_false, Nat.add_zero]
            exact (Nat.succ_le_succ rest).trans first
        | drop written task =>
            have first := patience_drop written task movedEq
              (pending + later.countP (Operation.pushesTo (preceding tier)))
            exact rest.trans first

theorem patience_mono {fewer more : Nat} (le : fewer ≤ more) :
    place.patience queues tier fewer ≤ place.patience queues tier more := by
  refine patience_le_of_attempts rfl rfl ?_
  omega

/-- If so many attempts are among the operations, then the entry at a place in the lane of a tier has
reached the front and was taken by the last of them at the latest, or its task was dropped before. -/
def LeavesWithin (place : Place) (queues : ReadyQueues) (tier : Tier) (attempts : Nat)
    (operations : List Operation) : Prop :=
  attempts ≤ operations.count .pop →
    ∃ earlier operation later last, operations = earlier ++ operation :: later ∧
      (earlier ++ [operation]).count .pop ≤ attempts ∧
        place.followAll queues tier earlier = some last ∧ last.entry = place.entry ∧
          last.lane = (queues.performAll earlier).entries tier ∧
            ((operation = .pop ∧ last.ahead = [] ∧
                (queues.performAll earlier).pop.1 = some (tier, place.entry)) ∨
              operation = .drop tier place.entry.task)

theorem leavesWithin_of_patience {operations : List Operation} {attempts : Nat}
    (consistent : queues.Consistent) (located : place.lane = queues.entries tier)
    (patient : place.patience queues tier
      (operations.countP (Operation.pushesTo (preceding tier))) ≤ attempts) :
    place.LeavesWithin queues tier attempts operations := by
  intro enough
  cases followed : place.followAll queues tier operations with
  | some last =>
      -- it would have had patience for all the attempts, but there are too many
      exfalso
      have spent := patience_followAll consistent located followed 0
      have turn := (queues.performAll operations).untilLowTurn_pos
      rw [Nat.zero_add, patience] at spent
      omega
  | none =>
      rcases removed_of_followAll followed with
        ⟨earlier, operation, later, last, rfl, followedEarlier, removed⟩
      rcases lane_followAll located followedEarlier with ⟨entry_eq, lastLocated⟩
      have cause := removed_of_follow lastLocated removed
      rw [entry_eq] at cause
      refine ⟨earlier, operation, later, last, rfl, ?_, followedEarlier, entry_eq, lastLocated,
        cause⟩
      have spent := patience_followAll consistent located followedEarlier 0
      have turn := (queues.performAll earlier).untilLowTurn_pos
      have pushed : place.patience queues tier
          (earlier.countP (Operation.pushesTo (preceding tier))) ≤ attempts := by
        refine (patience_mono ?_).trans patient
        exact (List.sublist_append_left earlier _).countP_le
      have single : [operation].count .pop ≤ 1 := List.count_le_length
      rw [Nat.zero_add, patience] at spent
      rw [List.count_append]
      omega

/-- However often other entries are pushed, an entry leaves its lane within the interval times the
number of entries that are in front of it, or are pushed in front of it, in the order of service that
looks at the low tiers first. -/
theorem leavesWithin (consistent : queues.Consistent) (located : place.lane = queues.entries tier)
    (operations : List Operation) :
    place.LeavesWithin queues tier
      ((queues.load (preceding tier) + operations.countP (Operation.pushesTo (preceding tier)) +
        place.ahead.length + 1) * queues.interval.toNat) operations :=
  leavesWithin_of_patience consistent located (patience_le _)

end Place

/-- How long the entries of the two lowest tiers wait at most, whatever is pushed and dropped in the
meantime. -/
structure ReadyQueues.BypassBounded (queues : ReadyQueues) : Prop where
  background : ∀ place : Place, place.lane = queues.entries .background → ∀ operations,
    place.LeavesWithin queues .background
      ((place.ahead.length + 1) * queues.interval.toNat) operations
  batch : ∀ place : Place, place.lane = queues.entries .batch → ∀ operations,
    place.LeavesWithin queues .batch
      (((queues.entries .background).length +
        operations.countP (Operation.pushesTo [.background]) + place.ahead.length + 1) *
          queues.interval.toNat) operations

theorem ReadyQueues.Consistent.bypassBounded {queues : ReadyQueues}
    (consistent : queues.Consistent) : queues.BypassBounded := by
  refine ⟨?_, ?_⟩
  · intro place located operations
    have leaves := place.leavesWithin consistent located operations
    have empty : queues.load (preceding .background) = 0 := rfl
    rwa [Operation.countP_pushesTo_background, empty, Nat.zero_add] at leaves
  · intro place located operations
    exact place.leavesWithin consistent located operations

end TierSched
