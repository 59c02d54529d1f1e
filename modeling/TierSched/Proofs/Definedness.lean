import TierSched.Proofs.Checked.Callback
import TierSched.Proofs.Preemption

/-!
# No callback traps

Whatever the host reports, the checked callbacks do what the plain ones do, so no word is shifted too
far, no array is indexed outside its bounds, no remainder is taken modulo zero, and no duration loses
bits. One event needs nothing but an accepted configuration, which no event changes; a history follows
by induction along its events.

That the units in answers and kicks exist is no question of traps, because nothing is shifted or indexed
by them any more. It needs the state: idle units exist in every reachable state, a search compares its
candidates with the number of units, and a unit named by the host is compared with it as well.
-/

namespace TierSched

namespace Occupancy

theorem lt_of_chooseVictim {occupancy : Occupancy} {tier : Tier} {now : Nanos} {unit : Nat}
    (chosen : (occupancy.chooseVictim tier now).1 = some unit) : unit < occupancy.units := by
  rw [chooseVictim] at chosen
  cases found : occupancy.searchVictim tier now occupancy.victims probeLimit with
  | none =>
      rw [found] at chosen
      contradiction
  | some slot =>
      have worth := eligible_of_searchVictim found
      simp only [eligible, Bool.and_eq_true, decide_eq_true_eq] at worth
      rw [found] at chosen
      rw [← Option.some.inj chosen]
      exact worth.1.1

/-- A unit that is kicked for a waiting task exists. -/
theorem Step.kicked_lt {now : Nanos} {event : Event} {before after : Occupancy} {kicks : List Kick}
    (step : Step now event before kicks after) {unit : Nat}
    (kicked : ⟨unit, .preemption⟩ ∈ kicks) : unit < before.units := by
  cases step with
  | unaffected => contradiction
  | overran other => simp at kicked
  | report action reported => contradiction
  | search tier => exact lt_of_chooseVictim (mem_victimKicks.mp kicked)

end Occupancy

/-- The unit of a placement and the units kicked for waiting tasks exist. -/
structure Outcome.NamesUnits (units : Nat) (outcome : Outcome Reply) : Prop where
  placed : ∀ placement, outcome.reply = .placed placement → placement.unit < units
  kicked : ∀ unit, ⟨unit, .preemption⟩ ∈ outcome.kicks → unit < units

/-- The durations that are computed are the exact ones, rounded down. -/
structure Config.Lossless (config : Config) : Prop where
  slice : ∀ tier : Tier, (tier.slice config.quantum).toNat =
    config.quantum.toNat * tier.quantumShare.toNat / 1000
  shortRunThreshold : config.shortRunThreshold.toNat =
    config.quantum.toNat * config.sparseShare.toNat / 1000
  average : ∀ average sample, (RuntimeEstimate.blend average sample).toNat =
    (32 * sample.toNat + (256 - 32) * average.toNat) / 256
  newTaskSlice : config.newTaskSlice.toNat = config.quantum.toNat + config.newTaskBonus.toNat

theorem Config.Accepted.lossless {config : Config} (accepted : config.Accepted) :
    config.Lossless where
  slice := accepted.toNat_slice
  shortRunThreshold := accepted.toNat_shortRunThreshold
  average average sample := by
    rw [RuntimeEstimate.toNat_blend]
    omega
  newTaskSlice := accepted.toNat_newTaskSlice

theorem Scheduler.checkedOutcomes_eq (scheduler : Scheduler) (accepted : scheduler.config.Accepted)
    (history : List (Nanos × Event)) :
    scheduler.checkedOutcomes history = .ok (scheduler.outcomes history) := by
  induction history generalizing scheduler with
  | nil => rfl
  | cons reported later ih =>
      rcases reported with ⟨now, event⟩
      have kept : (scheduler.handle now event).scheduler.config.Accepted := by
        rwa [scheduler.config_handle now event]
      rw [checkedOutcomes, scheduler.checkedHandle_eq accepted, Checked.ok_bind, ih _ kept]
      rfl

namespace Execution

variable (execution : Execution)

theorem placed_lt (now : Nanos) (task : TaskId) (previous : Option Nat) (flags : WakeFlags) :
    (execution.scheduler.wake now task previous flags).reply.unit < execution.config.units := by
  rcases execution.wake_suits now task previous flags with ⟨_, suits, _, _⟩ | ⟨_, nothing⟩
  · rw [← execution.units_occupancy]
    exact execution.faithful.idle_lt _ suits.free
  · rcases execution.scheduler.wake_of_not_idle now task previous flags nothing with
      ⟨_, unit_eq, _, _⟩
    rw [unit_eq, execution.config_eq]
    cases chosen : (if flags.sync = false then
        (execution.scheduler.occupancy.chooseVictim (execution.scheduler.observedTier task) now).1
      else none) with
    | some unit =>
        rw [Option.getD_some, ← execution.units_occupancy]
        split at chosen
        · exact Occupancy.lt_of_chooseVictim chosen
        · contradiction
    | none =>
        rw [Option.getD_none]
        cases known : previous.filter fun unit => unit < execution.config.units with
        | some unit => exact of_decide_eq_true (Option.filter_eq_some_iff.mp known).2
        | none => exact Nat.pos_of_ne_zero execution.accepted.units_ne_zero

/-- One more event names only units that exist. -/
theorem namesUnits_handle (now : Nanos) (event : Event) :
    (execution.scheduler.handle now event).NamesUnits execution.config.units := by
  refine ⟨?_, ?_⟩
  · intro placement answered
    cases event with
    | wake task previous flags =>
        rw [← Reply.placed.inj answered]
        exact execution.placed_lt now task previous flags
    | _ => contradiction
  · intro unit kicked
    rw [← execution.units_occupancy]
    exact (execution.scheduler.occupancyStep_of_handle now event).kicked_lt kicked

theorem namesUnits_outcomes (later : List (Nanos × Event)) :
    ∀ outcome ∈ execution.scheduler.outcomes later, outcome.NamesUnits execution.config.units := by
  induction later generalizing execution with
  | nil => exact fun outcome member => absurd member List.not_mem_nil
  | cons reported later ih =>
      rcases reported with ⟨now, event⟩
      have continued := ih (execution.extend [(now, event)])
      rw [execution.scheduler_extend] at continued
      intro outcome member
      rcases List.mem_cons.mp member with rfl | member
      · exact execution.namesUnits_handle now event
      · exact continued outcome member

/-- In every execution, no callback traps and no duration loses bits. The units in the answers to
wake-ups and in the kicks for waiting tasks exist, and so do the titles of the tiers in the notices. -/
theorem nothing_traps :
    execution.initial.checkedOutcomes execution.history =
        .ok (execution.initial.outcomes execution.history) ∧
      execution.config.Lossless ∧
      ∀ outcome ∈ execution.initial.outcomes execution.history,
        outcome.NamesUnits execution.config.units ∧
          ∀ notice ∈ outcome.notices,
            notice.checkedTitles = .ok (notice.tiers.map Tier.title) := by
  refine ⟨?_, execution.accepted.lossless, ?_⟩
  · apply execution.initial.checkedOutcomes_eq
    rw [execution.initial_eq]
    exact execution.accepted
  · intro outcome member
    let created := { execution with history := [] }
    exact ⟨created.namesUnits_outcomes execution.history outcome member,
      fun notice _ => notice.checkedTitles_eq⟩

end Execution

end TierSched
