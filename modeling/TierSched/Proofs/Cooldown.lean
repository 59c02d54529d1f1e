import TierSched.Proofs.Execution
import TierSched.Proofs.OccupancyStep

/-!
# The cooldown between two kicks

A unit that was kicked for a waiting task is not kicked for another one before its cooldown has passed.
The occupancy remembers for each unit only the reading of its latest kick, with zero for none, and
nothing but a search for a victim writes it. What is remembered is never smaller than the reading of
any earlier kick of the unit: a reading of zero is remembered as one, and after a clock that went back
no cooldown has passed. So the latest kick is as good as all of them, and `Occupancy.Remembers` carries
the spacing of all kicks of a unit through every history.
-/

namespace TierSched

namespace UnitRecord

/-- Once a unit was chosen, it has cooled down only if the cooldown has passed since. -/
theorem add_le_of_cooledDown {record : UnitRecord} {now cooldown : Nanos}
    (cooled : record.cooledDown now cooldown = true) (chosen : record.chosenAt ≠ 0)
    (positive : cooldown ≠ 0) :
    record.chosenAt.toNat + cooldown.toNat ≤ now.toNat := by
  have passed : cooldown ≤ Nanos.elapsed record.chosenAt now := by
    simpa [cooledDown, chosen] using cooled
  rw [UInt64.le_iff_toNat_le, Nanos.toNat_elapsed] at passed
  have positive : cooldown.toNat ≠ 0 := by
    intro zero
    exact positive (UInt64.toNat_inj.mp zero)
  omega

end UnitRecord

namespace Occupancy

theorem eligible_of_searchVictim {occupancy : Occupancy} {tier : Tier} {now : Nanos}
    {candidates : UnitSet} {probes : Nat} {slot : Fin unitLimit}
    (found : occupancy.searchVictim tier now candidates probes = some slot) :
    occupancy.eligible slot tier now = true := by
  induction probes generalizing candidates with
  | zero => contradiction
  | succ probes ih =>
      rw [searchVictim] at found
      split at found
      · contradiction
      · split at found
        · rename_i eligible
          rwa [← Option.some.inj found]
        · exact ih found

/-- A search changes nothing or chooses a unit that has cooled down. -/
theorem chooseVictim_cases (occupancy : Occupancy) (tier : Tier) (now : Nanos) :
    occupancy.chooseVictim tier now = (none, occupancy) ∨
      ∃ slot : Fin unitLimit, (occupancy.record slot).cooledDown now occupancy.cooldown = true ∧
        occupancy.chooseVictim tier now =
          (some (slot : Nat), occupancy.setRecord slot ((occupancy.record slot).choose now)) := by
  rw [chooseVictim]
  cases found : occupancy.searchVictim tier now occupancy.victims probeLimit with
  | none => exact Or.inl rfl
  | some slot =>
      refine Or.inr ⟨slot, ?_, rfl⟩
      have eligible := eligible_of_searchVictim found
      simp only [Occupancy.eligible, Bool.and_eq_true] at eligible
      exact eligible.2

theorem chosenAt_setRunning (occupancy : Occupancy) (slot read : Fin unitLimit)
    (running : Option Tier) :
    ((occupancy.setRecord slot { occupancy.record slot with running }).record read).chosenAt =
      (occupancy.record read).chosenAt := by
  by_cases own : slot = read
  · rw [own, record_setRecord_self]
  · rw [record_setRecord_of_ne _ _ own]

/-- Only a search for a victim changes what is remembered about kicks. -/
theorem chosenAt_perform (occupancy : Occupancy) {action : Action}
    (quiet : ∀ tier reading, action ≠ .chooseVictim tier reading) (slot : Fin unitLimit) :
    ((occupancy.perform action).record slot).chosenAt = (occupancy.record slot).chosenAt := by
  cases action with
  | reportIdle unit =>
      simp only [perform, reportIdle]
      split
      · rfl
      · exact chosenAt_setRunning occupancy _ slot none
  | reportBusy unit =>
      simp only [perform, reportBusy]
      split <;> rfl
  | reportRunning unit tier =>
      simp only [perform, reportRunning]
      split
      · rfl
      · split
        · rfl
        · exact chosenAt_setRunning occupancy _ slot (some tier)
  | takeIdle preferences =>
      simp only [perform]
      induction preferences with
      | nil => rfl
      | cons preferred others ih =>
          rw [takeIdle]
          split
          · exact ih (by simp)
          · rfl
  | chooseVictim tier now => exact absurd rfl (quiet tier now)

/-- The kicks of a log that were issued for waiting tasks are spaced by the cooldown, and none of them
is later than what the occupancy remembers about its unit. -/
structure Remembers (cooldown : Nanos) (log : List (Nanos × Kick)) (occupancy : Occupancy) :
    Prop where
  cooldown_eq : occupancy.cooldown = cooldown
  remembered : ∀ logged ∈ log, logged.2.reason = .preemption →
    ∃ slot : Fin unitLimit, logged.2.unit = slot ∧ (occupancy.record slot).chosenAt ≠ 0 ∧
      logged.1.toNat ≤ (occupancy.record slot).chosenAt.toNat
  spaced : log.Pairwise fun earlier later => earlier.2.reason = .preemption →
    later.2.reason = .preemption → earlier.2.unit = later.2.unit →
      earlier.1.toNat + cooldown.toNat ≤ later.1.toNat

namespace Remembers

variable {cooldown now : Nanos} {log : List (Nanos × Kick)} {before after : Occupancy}

/-- No kick for a waiting task is issued, and what is remembered stays. -/
theorem quiet (remembers : before.Remembers cooldown log) {kicks : List Kick}
    (cooldown_eq : after.cooldown = before.cooldown)
    (chosenAt_eq : ∀ slot, (after.record slot).chosenAt = (before.record slot).chosenAt)
    (other : ∀ kick ∈ kicks, kick.reason ≠ .preemption) :
    after.Remembers cooldown (log ++ kicks.map fun kick => (now, kick)) where
  cooldown_eq := cooldown_eq.trans remembers.cooldown_eq
  remembered := by
    intro logged member preemption
    rcases List.mem_append.mp member with earlier | issued
    · rcases remembers.remembered logged earlier preemption with ⟨slot, own, bounds⟩
      rw [← chosenAt_eq slot] at bounds
      exact ⟨slot, own, bounds⟩
    · rcases List.mem_map.mp issued with ⟨kick, kickMem, rfl⟩
      exact absurd preemption (other kick kickMem)
  spaced := by
    refine List.pairwise_append.mpr ⟨remembers.spaced, ?_, ?_⟩
    · refine List.pairwise_map.mpr (List.pairwise_of_forall_mem_list ?_)
      intro earlier earlierMem _ _ preemption
      exact absurd preemption (other earlier earlierMem)
    · intro earlier _ later laterMem _ preemption
      rcases List.mem_map.mp laterMem with ⟨kick, kickMem, rfl⟩
      exact absurd preemption (other kick kickMem)

/-- All kicks of a unit are a cooldown ago when the unit has cooled down, since none of them is later
than the one that is remembered. -/
theorem add_le_of_cooledDown (remembers : before.Remembers cooldown log) (positive : cooldown ≠ 0)
    {slot : Fin unitLimit}
    (cooled : (before.record slot).cooledDown now before.cooldown = true)
    {logged : Nanos × Kick} (member : logged ∈ log) (preemption : logged.2.reason = .preemption)
    (own : logged.2.unit = slot) : logged.1.toNat + cooldown.toNat ≤ now.toNat := by
  rcases remembers.remembered logged member preemption with ⟨kicked, kicked_eq, chosen, bound⟩
  have same : kicked = slot := Fin.ext (kicked_eq.symm.trans own)
  subst same
  rw [remembers.cooldown_eq] at cooled
  have passed := UnitRecord.add_le_of_cooledDown cooled chosen positive
  omega

/-- A unit that has cooled down is kicked. -/
theorem choose (remembers : before.Remembers cooldown log) (positive : cooldown ≠ 0)
    {slot : Fin unitLimit}
    (cooled : (before.record slot).cooledDown now before.cooldown = true) :
    (before.setRecord slot ((before.record slot).choose now)).Remembers cooldown
      (log ++ [(now, ⟨slot, .preemption⟩)]) where
  cooldown_eq := remembers.cooldown_eq
  remembered := by
    intro logged member preemption
    have stored := (before.record slot).toNat_chosenAt_choose now
    have chosen := (before.record slot).chosenAt_choose_ne_zero now
    rcases List.mem_append.mp member with earlier | issued
    · by_cases own : logged.2.unit = slot
      · have passed := remembers.add_le_of_cooledDown positive cooled earlier preemption own
        refine ⟨slot, own, ?_⟩
        rw [record_setRecord_self]
        exact ⟨chosen, by omega⟩
      · rcases remembers.remembered logged earlier preemption with ⟨kicked, kicked_eq, bounds⟩
        refine ⟨kicked, kicked_eq, ?_⟩
        rw [record_setRecord_of_ne]
        · exact bounds
        · intro same
          apply own
          rw [kicked_eq, same]
    · rw [List.mem_singleton.mp issued]
      refine ⟨slot, rfl, ?_⟩
      rw [record_setRecord_self, stored]
      exact ⟨chosen, Nat.le_max_left _ _⟩
  spaced := by
    refine List.pairwise_append.mpr ⟨remembers.spaced, List.pairwise_singleton _ _, ?_⟩
    intro earlier earlierMem later laterMem preemption _ same
    rw [List.mem_singleton.mp laterMem] at same ⊢
    exact remembers.add_le_of_cooledDown positive cooled earlierMem preemption same

theorem step (remembers : before.Remembers cooldown log) (positive : cooldown ≠ 0)
    {event : Event} {kicks : List Kick} (step : Occupancy.Step now event before kicks after) :
    after.Remembers cooldown (log ++ kicks.map fun kick => (now, kick)) := by
  cases step with
  | unaffected => exact remembers.quiet rfl (fun _ => rfl) (by simp)
  | overran unit => exact remembers.quiet rfl (fun _ => rfl) (by simp)
  | report action reported =>
      exact remembers.quiet (before.perform_frame action).2.2
        (before.chosenAt_perform reported.quiet) (by simp)
  | search tier =>
      rcases before.chooseVictim_cases tier now with missed | ⟨slot, cooled, found⟩
      · simp only [perform, missed]
        exact remembers.quiet rfl (fun _ => rfl) (by simp [victimKicks])
      · rw [perform, found]
        exact remembers.choose positive cooled

end Remembers

end Occupancy

namespace Scheduler

/-- All kicks that are issued in the course of a history, with the readings of their events. -/
def kickLog (scheduler : Scheduler) : List (Nanos × Event) → List (Nanos × Kick)
  | [] => []
  | (now, event) :: later =>
    ((scheduler.handle now event).kicks.map fun kick => (now, kick)) ++
      (scheduler.handle now event).scheduler.kickLog later

theorem kickLog_concat (scheduler : Scheduler) (earlier : List (Nanos × Event)) (now : Nanos)
    (event : Event) :
    scheduler.kickLog (earlier ++ [(now, event)]) =
      scheduler.kickLog earlier ++
        ((scheduler.after earlier).handle now event).kicks.map fun kick => (now, kick) := by
  induction earlier generalizing scheduler with
  | nil => simp [kickLog, after]
  | cons first others ih => simp [kickLog, after, ih]

end Scheduler

namespace Execution

/-- All kicks of an execution, in order, with the readings at which they were issued. -/
def kickLog (execution : Execution) : List (Nanos × Kick) :=
  execution.initial.kickLog execution.history

theorem remembers (execution : Execution) :
    execution.scheduler.occupancy.Remembers execution.config.kickCooldown execution.kickLog := by
  have accepted := (Scheduler.create_eq_ok_iff.mp execution.created).1
  refine Scheduler.after_induction (motive := fun history scheduler =>
    scheduler.occupancy.Remembers execution.config.kickCooldown
      (execution.initial.kickLog history)) execution.initial ?_ ?_ execution.history
  · rw [execution.initial_eq]
    exact ⟨rfl, by simp [Scheduler.kickLog], List.Pairwise.nil⟩
  · intro earlier now event remembers
    rw [Scheduler.kickLog_concat]
    exact remembers.step accepted.kickCooldown_ne_zero
      (Scheduler.occupancyStep_of_handle _ now event)

/-- Two kicks of the same unit for waiting tasks are at least the cooldown apart, in this order of
their readings, whatever the clock shows. -/
theorem kicks_spaced (execution : Execution) :
    execution.kickLog.Pairwise fun earlier later =>
      earlier.2.reason = .preemption → later.2.reason = .preemption →
        earlier.2.unit = later.2.unit →
          earlier.1.toNat + execution.config.kickCooldown.toNat ≤ later.1.toNat :=
  execution.remembers.spaced

/-- A unit that runs a long task is kicked for a woken task, not for another one just before the
cooldown has passed, and again at the end of the cooldown. -/
theorem kicks_spaced_of_three_wakes :
    let execution := ofHistory
      [(1000, .start 0 1), (100001000, .stop 0 1 true), (100001000, .start 0 1),
        (200000000, .wake 2 none ⟨false, false⟩), (200199999, .wake 3 none ⟨false, false⟩),
        (200200000, .wake 4 none ⟨false, false⟩)]
    execution.config.kickCooldown = 200000 ∧
      execution.kickLog = [(200000000, ⟨0, .preemption⟩), (200200000, ⟨0, .preemption⟩)] ∧
      execution.kickLog.Pairwise fun earlier later =>
        earlier.2.reason = .preemption → later.2.reason = .preemption →
          earlier.2.unit = later.2.unit →
            earlier.1.toNat + execution.config.kickCooldown.toNat ≤ later.1.toNat := by
  intro execution
  refine ⟨rfl, ?_, execution.kicks_spaced⟩
  decide +kernel

end Execution

end TierSched
