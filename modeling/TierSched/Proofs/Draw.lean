import TierSched.Proofs.Profile
import TierSched.Proofs.Waiting
import TierSched.Scheduler.Dispatch

/-!
# What a search takes

A search for a live entry removes entries from the fronts of the lanes until it meets a live one.
`Draw.Sound` says what is left afterwards: every lane has lost some stale entries from its front, and
the lane of the live entry that was found has lost this entry after them. Staleness and liveness
refer to the profiles before the search, because a stale entry changes no profile when it is
discarded. `draw_sound` proves this by induction along the search.
-/

namespace TierSched

namespace Roster

theorem live_iff_of_tracked {roster : Roster} {entry : Entry} {profile : Profile}
    (tracked : roster.get? entry.task = some profile) :
    roster.Live entry ↔ profile.Owns entry.generation := by
  simp [Live, tracked]

/-- Whether an entry is live depends on the profile of its task only. -/
theorem live_congr {left right : Roster} {entry : Entry}
    (same : left.get? entry.task = right.get? entry.task) :
    left.Live entry ↔ right.Live entry := by
  simp [Live, same]

theorem get?_claim_of_live {roster : Roster} {entry : Entry} (live : roster.Live entry)
    (read : TaskId) :
    (roster.claim entry).2.get? read =
      if entry.task = read then (roster.get? read).map Profile.claimed
      else roster.get? read := by
  simp only [claim, get?_update]
  by_cases own : entry.task = read
  · subst own
    rw [if_pos rfl, if_pos rfl]
    cases found : roster.get? entry.task with
    | none => rfl
    | some profile =>
        have owns := (live_iff_of_tracked found).mp live
        simp [Profile.claim_of_owns owns]
  · rw [if_neg own, if_neg own]

/-- Discarding a stale entry changes no profile. -/
theorem get?_claim_of_not_live {roster : Roster} {entry : Entry} (stale : ¬roster.Live entry)
    (read : TaskId) : (roster.claim entry).2.get? read = roster.get? read := by
  simp only [claim, get?_update]
  by_cases own : entry.task = read
  · subst own
    rw [if_pos rfl]
    cases found : roster.get? entry.task with
    | none => rfl
    | some profile =>
        have foreign := mt (live_iff_of_tracked found).mpr stale
        simp [Profile.claim_of_not_owns foreign]
  · rw [if_neg own]

theorem live_claim_of_not_live {roster : Roster} {entry : Entry} (stale : ¬roster.Live entry)
    (other : Entry) : (roster.claim entry).2.Live other ↔ roster.Live other :=
  live_congr (get?_claim_of_not_live stale other.task)

end Roster

section Attempt

variable {queues rest : ReadyQueues} {roster : Roster} {tier : Tier} {entry : Entry}

theorem draw_of_exhausted (popped : queues.pop = (none, rest)) :
    draw queues roster = { taken := none, stale := [], queues := rest, roster } := by
  rw [draw]
  split
  · rename_i remaining same
    cases popped.symm.trans same
    rfl
  · rename_i remaining same
    cases popped.symm.trans same

theorem draw_of_live (popped : queues.pop = (some (tier, entry), rest)) (live : roster.Live entry) :
    draw queues roster =
      { taken := some (tier, entry), stale := [], queues := rest
        roster := (roster.claim entry).2 } := by
  rw [← Roster.claim_eq_true_iff] at live
  rw [draw]
  split
  · rename_i remaining same
    cases popped.symm.trans same
  · rename_i remaining same
    cases popped.symm.trans same
    split
    · rename_i claimed taken
      rw [taken]
    · rename_i claimed refused
      rw [refused] at live
      contradiction

theorem draw_of_stale (popped : queues.pop = (some (tier, entry), rest))
    (stale : ¬roster.Live entry) :
    draw queues roster =
      { draw rest (roster.claim entry).2 with
        stale := entry :: (draw rest (roster.claim entry).2).stale } := by
  rw [← Roster.claim_eq_true_iff] at stale
  rw [draw]
  split
  · rename_i remaining same
    cases popped.symm.trans same
  · rename_i remaining same
    cases popped.symm.trans same
    split
    · rename_i claimed taken
      rw [taken] at stale
      contradiction
    · rename_i claimed refused
      rw [refused]

end Attempt

/-- A statement about a search follows from the case that nothing waits, the case that a live entry
is at the front, and the case that a stale entry is discarded before the search goes on. -/
theorem draw_induction {motive : ReadyQueues → Roster → Draw → Prop}
    (exhausted : ∀ queues roster rest, queues.pop = (none, rest) →
      motive queues roster { taken := none, stale := [], queues := rest, roster })
    (found : ∀ queues roster rest tier entry, queues.pop = (some (tier, entry), rest) →
      roster.Live entry →
      motive queues roster
        { taken := some (tier, entry), stale := [], queues := rest
          roster := (roster.claim entry).2 })
    (discarded : ∀ queues roster rest tier entry further,
      queues.pop = (some (tier, entry), rest) → ¬roster.Live entry →
      motive rest (roster.claim entry).2 further →
      motive queues roster { further with stale := entry :: further.stale })
    (queues : ReadyQueues) (roster : Roster) : motive queues roster (draw queues roster) := by
  fun_induction draw queues roster with
  | case1 queues roster rest popped => exact exhausted queues roster rest popped
  | case2 queues roster tier entry rest popped claimed taken =>
      have live : roster.Live entry := by
        rw [← Roster.claim_eq_true_iff, taken]
      have next := found queues roster rest tier entry popped live
      rwa [taken] at next
  | case3 queues roster tier entry rest popped claimed refused lighter further ih =>
      have stale : ¬roster.Live entry := by
        rw [← Roster.claim_eq_true_iff, refused]
        exact Bool.false_ne_true
      refine discarded queues roster rest tier entry further popped stale ?_
      rwa [refused]

namespace Draw

/-- The live entry that was found, if it was found in the lane of this tier. -/
def takenFrom (drawn : Draw) (tier : Tier) : List Entry :=
  match drawn.taken with
  | none => []
  | some (source, entry) => if source = tier then [entry] else []

theorem mem_takenFrom {drawn : Draw} {tier : Tier} {entry : Entry} :
    entry ∈ drawn.takenFrom tier ↔ drawn.taken = some (tier, entry) := by
  rw [takenFrom]
  cases drawn.taken with
  | none => simp
  | some found =>
      rcases found with ⟨source, front⟩
      by_cases same : source = tier
      · simp [same, eq_comm]
      · simp [same]

/-- The task of the live entry that was found. -/
def task? (drawn : Draw) : Option TaskId :=
  drawn.taken.map fun found => found.2.task

/-- What a search takes and what it leaves behind. -/
structure Sound (queues : ReadyQueues) (roster : Roster) (drawn : Draw) : Prop where
  /-- Only stale entries and the live entry that was found are removed, from the fronts. -/
  entries_eq : ∀ tier, ∃ discarded, (∀ entry ∈ discarded, ¬roster.Live entry) ∧
    queues.entries tier = discarded ++ drawn.takenFrom tier ++ drawn.queues.entries tier
  live : ∀ tier entry, drawn.taken = some (tier, entry) → roster.Live entry
  /-- The task that was found no longer waits; all other profiles are as before. -/
  get?_eq : ∀ task, drawn.roster.get? task =
    if drawn.task? = some task then (roster.get? task).map Profile.claimed
    else roster.get? task
  consistent : queues.Consistent → drawn.queues.Consistent
  /-- A search without result has emptied the queues. -/
  exhausted : queues.Consistent → drawn.taken = none → ∀ tier, drawn.queues.entries tier = []
  /-- Every attempt but the last one discarded an entry. -/
  attempts_eq : drawn.queues.attempts = queues.attempts + .ofNat (drawn.stale.length + 1)
  weight_eq : drawn.stale.length + drawn.taken.toList.length + drawn.queues.weight = queues.weight

end Draw

theorem draw_sound (queues : ReadyQueues) (roster : Roster) :
    Draw.Sound queues roster (draw queues roster) := by
  induction queues, roster using draw_induction with
  | exhausted queues roster rest popped =>
      have same := ReadyQueues.entries_of_pop_eq_none popped
      refine ⟨?_, ?_, ?_, ?_, ?_, ?_, ?_⟩
      · intro tier
        exact ⟨[], by simp, by simp [Draw.takenFrom, same tier]⟩
      · intro tier entry impossible
        contradiction
      · intro task
        simp [Draw.task?]
      · intro consistent
        exact consistent.of_pop popped
      · intro consistent _ tier
        rw [same tier]
        exact ReadyQueues.entries_eq_nil_of_pop_eq_none consistent popped tier
      · exact ReadyQueues.attempts_of_pop popped
      · simp [ReadyQueues.weight, same]
  | found queues roster rest tier entry popped live =>
      refine ⟨?_, ?_, ?_, ?_, ?_, ?_, ?_⟩
      · intro read
        exact ⟨[], by simp, ReadyQueues.entries_of_pop popped read⟩
      · intro source front taken
        simp only [Option.some.injEq, Prod.mk.injEq] at taken
        rwa [← taken.2]
      · intro task
        rw [Roster.get?_claim_of_live live]
        simp [Draw.task?]
      · intro consistent
        exact consistent.of_pop popped
      · intro _ impossible
        contradiction
      · exact ReadyQueues.attempts_of_pop popped
      · have lighter := ReadyQueues.weight_pop popped
        simp only [List.length_nil, Option.toList_some, List.length_singleton]
        omega
  | discarded queues roster rest tier entry further popped stale ih =>
      refine ⟨?_, ?_, ?_, ?_, ?_, ?_, ?_⟩
      · intro read
        rcases ih.entries_eq read with ⟨discarded, allStale, split⟩
        refine ⟨(if tier = read then [entry] else []) ++ discarded, ?_, ?_⟩
        · intro other member
          rcases List.mem_append.mp member with first | later
          · split at first
            · rw [List.mem_singleton.mp first]
              exact stale
            · simp at first
          · exact mt (Roster.live_claim_of_not_live stale other).mpr (allStale other later)
        · rw [ReadyQueues.entries_of_pop popped read, split]
          simp [Draw.takenFrom]
      · intro source front taken
        exact (Roster.live_claim_of_not_live stale front).mp (ih.live source front taken)
      · intro task
        rw [← Roster.get?_claim_of_not_live stale task]
        exact ih.get?_eq task
      · intro consistent
        exact ih.consistent (consistent.of_pop popped)
      · intro consistent nothing
        exact ih.exhausted (consistent.of_pop popped) nothing
      · have counted := ReadyQueues.attempts_of_pop popped
        rw [ih.attempts_eq, counted, List.length_cons, UInt64.ofNat_add (further.stale.length + 1),
          UInt64.add_assoc]
        congr 1
        exact UInt64.add_comm 1 _
      · have lighter := ReadyQueues.weight_pop popped
        have rest_eq := ih.weight_eq
        simp only [List.length_cons]
        omega

namespace Draw.Sound

variable {queues : ReadyQueues} {roster : Roster} {drawn : Draw}

theorem mem_of_taken (sound : drawn.Sound queues roster) {tier : Tier} {entry : Entry}
    (taken : drawn.taken = some (tier, entry)) : entry ∈ queues.entries tier := by
  rcases sound.entries_eq tier with ⟨discarded, _, split⟩
  rw [split]
  apply List.mem_append_left
  exact List.mem_append_right discarded (mem_takenFrom.mpr taken)

theorem mem_of_remains (sound : drawn.Sound queues roster) {tier : Tier} {entry : Entry}
    (remains : entry ∈ drawn.queues.entries tier) : entry ∈ queues.entries tier := by
  rcases sound.entries_eq tier with ⟨discarded, _, split⟩
  rw [split]
  exact List.mem_append_right _ remains

end Draw.Sound

end TierSched
