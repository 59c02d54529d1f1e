import TierSched.Proofs.Correspondence
import TierSched.Proofs.Profile
import TierSched.Unit.Occupancy

/-!
# Clocks that differ by an offset

Two clocks that differ by a constant offset measure the same durations. Profiles, rosters and
occupancies are alike for an offset if they differ by nothing but readings, and if the readings that
can still be used in a duration are shifted by this offset: the beginning of the run of a running task,
the beginning of the wait of a task that can run, and the latest choice of a unit that was chosen. All
other readings are arbitrary, since a reading from a clock that was never shifted may be left over.

It is shown for every operation on profiles and occupancies that alike states, at shifted readings, give
the same answers and become alike states again. What this means for rosters is a case of `Roster.Rel`.
-/

namespace TierSched

namespace Nanos

/-- The second reading is later than the first one by the offset. -/
def Shifted (offset : Int) (first second : Nanos) : Prop :=
  (second.toNat : Int) = first.toNat + offset

instance (offset : Int) (first second : Nanos) : Decidable (Shifted offset first second) :=
  inferInstanceAs (Decidable ((second.toNat : Int) = first.toNat + offset))

/-- The time between two readings does not depend on the offset. -/
theorem elapsed_eq_of_shifted {offset : Int} {since other now later : Nanos}
    (begin : Shifted offset since other) (clock : Shifted offset now later) :
    elapsed since now = elapsed other later := by
  simp only [Shifted] at begin clock
  apply UInt64.toNat_inj.mp
  rw [toNat_elapsed, toNat_elapsed]
  omega

end Nanos

open Nanos (Shifted elapsed_eq_of_shifted)

variable {offset : Int} {now later : Nanos}

namespace Profile

/-- The profile with other readings. -/
def withReadings (profile : Profile) (startedAt runnableSince : Nanos) : Profile :=
  { profile with startedAt, runnableSince }

/-- The profiles differ by readings only, and those in use are shifted. -/
inductive Alike (offset : Int) (profile : Profile) : Profile → Prop where
  | intro (startedAt runnableSince : Nanos)
      (started : profile.phase = .running → Shifted offset profile.startedAt startedAt)
      (waiting : profile.phase.isRunnable = true →
        Shifted offset profile.runnableSince runnableSince) :
      Alike offset profile (profile.withReadings startedAt runnableSince)

theorem alike_fresh (offset : Int) (config : Config) :
    (fresh config).Alike offset (fresh config) :=
  .intro 0 0 (fun running => by contradiction) (fun runnable => by contradiction)

/-- A judgement does not depend on the readings in the profile. -/
theorem judge_withReadings (budget : WaitBudget) (profile : Profile)
    (wait startedAt runnableSince : Nanos) :
    budget.judge (profile.withReadings startedAt runnableSince) wait =
      ((budget.judge profile wait).1,
        (budget.judge profile wait).2.withReadings startedAt runnableSince) := by
  have judged := profile.judge_congr budget wait startedAt runnableSince profile.totalRuntime
    profile.wakes profile.runs
  rcases budget.judge_eq profile wait with ⟨score, tier, slice, violations, judged_eq⟩
  rw [judged_eq] at judged ⊢
  exact judged

namespace Alike

variable {profile other : Profile}

theorem wake (alike : profile.Alike offset other) (clock : Shifted offset now later) :
    Reports (Alike offset) (profile.wake now) (other.wake later) := by
  cases alike with
  | intro startedAt runnableSince started waiting =>
      exact ⟨rfl, .intro startedAt later (fun running => by contradiction) (fun _ => clock)⟩

theorem enqueue (alike : profile.Alike offset other) (clock : Shifted offset now later) :
    Reports (Alike offset) (profile.enqueue now) (other.enqueue later) := by
  cases alike with
  | intro startedAt runnableSince started waiting =>
      have phase_eq : (profile.withReadings startedAt runnableSince).phase = profile.phase := rfl
      by_cases queued : profile.phase = .queued
      · rw [enqueue_of_queued queued, enqueue_of_queued (phase_eq.trans queued)]
        exact ⟨rfl, .intro startedAt runnableSince started waiting⟩
      · have unqueued := queued
        rw [← phase_eq] at unqueued
        rw [enqueue_of_not_queued queued, enqueue_of_not_queued unqueued]
        refine ⟨rfl, .intro startedAt _ (fun running => by contradiction) fun _ => ?_⟩
        rw [phase_eq]
        by_cases runnable : profile.phase.isRunnable = true
        · simp only [if_pos runnable]
          exact waiting runnable
        · simp only [if_neg runnable]
          exact clock

theorem claim (alike : profile.Alike offset other) (generation : Generation) :
    Reports (Alike offset) (profile.claim generation) (other.claim generation) := by
  cases alike with
  | intro startedAt runnableSince started waiting =>
      have alike := Alike.intro startedAt runnableSince started waiting
      by_cases owns : profile.Owns generation
      · have same : (profile.withReadings startedAt runnableSince).Owns generation := owns
        rw [Profile.claim, if_pos owns, Profile.claim, if_pos same]
        exact ⟨rfl, .intro startedAt runnableSince started waiting⟩
      · have same : ¬(profile.withReadings startedAt runnableSince).Owns generation := owns
        rw [Profile.claim, if_neg owns, Profile.claim, if_neg same]
        exact ⟨rfl, alike⟩

theorem start (alike : profile.Alike offset other) (budget : WaitBudget)
    (clock : Shifted offset now later) :
    Reports (Alike offset) (profile.start budget now) (other.start budget later) := by
  cases alike with
  | intro startedAt runnableSince started waiting =>
      have begun_eq : (profile.withReadings startedAt runnableSince).begun later =
          (profile.begun now).withReadings later runnableSince := rfl
      have begins : ∀ after : Profile, after.phase = .running → after.startedAt = now →
          after.Alike offset (after.withReadings later runnableSince) := by
        intro after running startedAt_eq
        refine .intro later runnableSince (fun _ => startedAt_eq ▸ clock) ?_
        rw [running]
        intro runnable
        contradiction
      by_cases runnable : profile.phase.isRunnable = true
      · have same : (profile.withReadings startedAt runnableSince).phase.isRunnable = true := runnable
        rw [start_of_runnable runnable, start_of_runnable same, begun_eq, judge_withReadings]
        rcases budget.judge_eq (profile.begun now) (Nanos.elapsed profile.runnableSince now) with
          ⟨score, tier, slice, violations, judged_eq⟩
        have duration_eq : Nanos.elapsed profile.runnableSince now =
            Nanos.elapsed (profile.withReadings startedAt runnableSince).runnableSince later :=
          elapsed_eq_of_shifted (waiting runnable) clock
        rw [← duration_eq]
        refine ⟨rfl, begins _ ?_ ?_⟩
        · rw [judged_eq]
          rfl
        · rw [judged_eq]
          rfl
      · have same : ¬(profile.withReadings startedAt runnableSince).phase.isRunnable = true :=
          runnable
        rw [start_of_not_runnable runnable, start_of_not_runnable same, begun_eq]
        exact ⟨rfl, begins _ rfl rfl⟩

theorem stop (alike : profile.Alike offset other) (running : profile.phase = .running)
    (config : Config) (clock : Shifted offset now later) (requeue : Bool) :
    Reports (Alike offset) (profile.stop config now requeue) (other.stop config later requeue) := by
  cases alike with
  | intro startedAt runnableSince started waiting =>
      have same : (profile.withReadings startedAt runnableSince).phase = .running := running
      have runtime_eq : Nanos.elapsed profile.startedAt now =
          Nanos.elapsed (profile.withReadings startedAt runnableSince).startedAt later :=
        elapsed_eq_of_shifted (started running) clock
      simp only [Profile.stop, if_pos running, if_pos same, ← runtime_eq]
      cases requeue with
      | false =>
          exact ⟨rfl, .intro startedAt runnableSince (fun running => by contradiction)
            (fun runnable => by contradiction)⟩
      | true =>
          exact ⟨rfl, .intro startedAt later (fun running => by contradiction) (fun _ => clock)⟩

theorem checkCeiling (alike : profile.Alike offset other) (ceiling : Tier → Nanos)
    (clock : Shifted offset now later) :
    Reports (Alike offset) (profile.checkCeiling ceiling now) (other.checkCeiling ceiling later) := by
  cases alike with
  | intro startedAt runnableSince started waiting =>
      have phase_eq : (profile.withReadings startedAt runnableSince).phase = profile.phase := rfl
      by_cases running : profile.phase = .running
      · have runtime_eq : Nanos.elapsed profile.startedAt now =
            Nanos.elapsed (profile.withReadings startedAt runnableSince).startedAt later :=
          elapsed_eq_of_shifted (started running) clock
        simp only [Profile.checkCeiling, ← runtime_eq]
        change Reports (Alike offset) (if _ then _ else _) (if profile.phase = .running ∧
          profile.kickedInRun = false ∧ ceiling profile.tier < _ then _ else _)
        split
        · exact ⟨rfl, .intro startedAt runnableSince started waiting⟩
        · exact ⟨rfl, .intro startedAt runnableSince started waiting⟩
      · simp only [Profile.checkCeiling, phase_eq, running, false_and, if_false]
        exact ⟨rfl, .intro startedAt runnableSince started waiting⟩

theorem mark (alike : profile.Alike offset other) :
    Reports (Alike offset) ((), { profile with kickedOnWake := true })
      ((), { other with kickedOnWake := true }) := by
  cases alike with
  | intro startedAt runnableSince started waiting =>
      exact ⟨rfl, .intro startedAt runnableSince started waiting⟩

theorem waitsIn_eq (alike : profile.Alike offset other) : profile.waitsIn = other.waitsIn := by
  cases alike with
  | intro startedAt runnableSince started waiting => rfl

end Alike

end Profile

namespace Roster

/-- The rosters hold alike profiles of the same tasks. -/
structure Alike (offset : Int) (first second : Roster) : Prop where
  count_eq : first.count = second.count
  capacity_eq : first.capacity = second.capacity
  profiles : ∀ task, Option.Rel (Profile.Alike offset) (first.get? task) (second.get? task)

theorem alike_iff_rel {first second : Roster} :
    first.Alike offset second ↔ first.Rel (Profile.Alike offset) second :=
  ⟨fun alike => ⟨alike.count_eq, alike.capacity_eq, alike.profiles⟩,
    fun rosters => ⟨rosters.count_eq, rosters.capacity_eq, rosters.profiles⟩⟩

end Roster

/-- The records show the same tier, and if the unit was ever chosen, the choices are shifted. -/
structure UnitRecord.Alike (offset : Int) (first second : UnitRecord) : Prop where
  running_eq : first.running = second.running
  chosenAt : first.chosenAt = 0 ∧ second.chosenAt = 0 ∨
    first.chosenAt ≠ 0 ∧ second.chosenAt ≠ 0 ∧ Shifted offset first.chosenAt second.chosenAt

namespace UnitRecord.Alike

variable {first second : UnitRecord}

theorem withRunning (alike : first.Alike offset second) (running : Option Tier) :
    { first with running }.Alike offset { second with running } :=
  ⟨rfl, alike.chosenAt⟩

theorem cooledDown_eq (alike : first.Alike offset second) (clock : Shifted offset now later)
    (cooldown : Nanos) : first.cooledDown now cooldown = second.cooledDown later cooldown := by
  rcases alike.chosenAt with ⟨unchosen, untouched⟩ | ⟨chosen, picked, shifted⟩
  · simp [cooledDown, unchosen, untouched]
  · simp [cooledDown, beq_false_of_ne chosen, beq_false_of_ne picked,
      elapsed_eq_of_shifted shifted clock]

theorem choose (alike : first.Alike offset second) (clock : Shifted offset now later)
    (begun : now ≠ 0) (started : later ≠ 0) :
    (first.choose now).Alike offset (second.choose later) := by
  refine ⟨alike.running_eq, Or.inr ?_⟩
  rw [chosenAt_choose_of_ne_zero _ begun, chosenAt_choose_of_ne_zero _ started]
  exact ⟨begun, started, clock⟩

end UnitRecord.Alike

namespace Occupancy

/-- The occupancies differ by the readings in their records only. -/
inductive Alike (offset : Int) (occupancy : Occupancy) : Occupancy → Prop where
  | intro (records : Vector UnitRecord unitLimit)
      (related : ∀ slot : Fin unitLimit,
        (occupancy.record slot).Alike offset ({ occupancy with records }.record slot)) :
      Alike offset occupancy { occupancy with records }

namespace Alike

variable {occupancy other : Occupancy}

section Fields

variable (alike : occupancy.Alike offset other)

include alike

theorem slot?_eq (unit : Nat) : other.slot? unit = occupancy.slot? unit := by
  cases alike with
  | intro records related => rfl

theorem idle_eq : other.idle = occupancy.idle := by
  cases alike with
  | intro records related => rfl

theorem victims_eq : other.victims = occupancy.victims := by
  cases alike with
  | intro records related => rfl

theorem victimTier_eq : other.victimTier = occupancy.victimTier := by
  cases alike with
  | intro records related => rfl

theorem record (slot : Fin unitLimit) :
    (occupancy.record slot).Alike offset (other.record slot) := by
  cases alike with
  | intro records related => exact related slot

end Fields

theorem withIdle (alike : occupancy.Alike offset other) (idle : UnitSet) :
    { occupancy with idle }.Alike offset { other with idle } := by
  cases alike with
  | intro records related => exact .intro records related

theorem withVictims (alike : occupancy.Alike offset other) (victims : UnitSet) :
    { occupancy with victims }.Alike offset { other with victims } := by
  cases alike with
  | intro records related => exact .intro records related

theorem setRecord (alike : occupancy.Alike offset other) (slot : Fin unitLimit)
    {first second : UnitRecord} (related : first.Alike offset second) :
    (occupancy.setRecord slot first).Alike offset (other.setRecord slot second) := by
  cases alike with
  | intro records others =>
      refine .intro (records.set slot second) ?_
      intro read
      simp only [Occupancy.setRecord, Occupancy.record, Fin.getElem_fin, Vector.getElem_set]
      split
      · exact related
      · exact others read

theorem reportIdle (alike : occupancy.Alike offset other) (unit : Nat) :
    (occupancy.reportIdle unit).Alike offset (other.reportIdle unit) := by
  rw [Occupancy.reportIdle, Occupancy.reportIdle, alike.slot?_eq, alike.idle_eq, alike.victims_eq]
  cases occupancy.slot? unit with
  | none => exact alike
  | some slot =>
      have entered := alike.setRecord slot ((alike.record slot).withRunning none)
      exact (entered.withVictims (occupancy.victims.erase slot)).withIdle
        (occupancy.idle.insert slot)

theorem reportBusy (alike : occupancy.Alike offset other) (unit : Nat) :
    (occupancy.reportBusy unit).Alike offset (other.reportBusy unit) := by
  rw [Occupancy.reportBusy, Occupancy.reportBusy, alike.slot?_eq, alike.idle_eq]
  cases occupancy.slot? unit with
  | none => exact alike
  | some slot => exact alike.withIdle _

theorem reportRunning (alike : occupancy.Alike offset other) (unit : Nat) (tier : Tier) :
    (occupancy.reportRunning unit tier).2.Alike offset (other.reportRunning unit tier).2 := by
  rw [Occupancy.reportRunning, Occupancy.reportRunning, alike.slot?_eq, alike.idle_eq]
  cases occupancy.slot? unit with
  | none => exact alike
  | some slot =>
      have busy := alike.withIdle (occupancy.idle.erase slot)
      have running_eq := (alike.record slot).running_eq
      dsimp only
      by_cases same : (occupancy.record slot).running = some tier
      · rw [if_pos same, if_pos (running_eq.symm.trans same)]
        exact busy
      · have victims_eq :
            (if other.victimTier ≤ tier then other.victims.insert slot
              else other.victims.erase slot) =
            (if occupancy.victimTier ≤ tier then occupancy.victims.insert slot
              else occupancy.victims.erase slot) := by
          rw [alike.victimTier_eq, alike.victims_eq]
        rw [if_neg same, if_neg fun shown => same (running_eq.trans shown), victims_eq]
        exact (busy.setRecord slot ((alike.record slot).withRunning (some tier))).withVictims _

theorem takeIdle (alike : occupancy.Alike offset other) (preferences : List UnitSet) :
    (occupancy.takeIdle preferences).1 = (other.takeIdle preferences).1 ∧
      (occupancy.takeIdle preferences).2.Alike offset (other.takeIdle preferences).2 := by
  induction preferences with
  | nil => exact ⟨rfl, alike⟩
  | cons preferred others ih =>
      rw [Occupancy.takeIdle, Occupancy.takeIdle, alike.idle_eq]
      cases (occupancy.idle.inter preferred).first? with
      | none => exact ih
      | some slot => exact ⟨rfl, alike.withIdle _⟩

theorem eligible_eq (alike : occupancy.Alike offset other) (clock : Shifted offset now later)
    (slot : Fin unitLimit) (tier : Tier) :
    other.eligible slot tier later = occupancy.eligible slot tier now := by
  have related := alike.record slot
  cases alike with
  | intro records others =>
      simp only [Occupancy.eligible, UnitRecord.runsBelow, related.running_eq,
        related.cooledDown_eq clock]

theorem searchVictim_eq (alike : occupancy.Alike offset other) (clock : Shifted offset now later)
    (tier : Tier) (candidates : UnitSet) (probes : Nat) :
    other.searchVictim tier later candidates probes =
      occupancy.searchVictim tier now candidates probes := by
  induction probes generalizing candidates with
  | zero => rfl
  | succ probes ih =>
      rw [Occupancy.searchVictim, Occupancy.searchVictim]
      cases candidates.first? with
      | none => rfl
      | some slot =>
          dsimp only
          rw [alike.eligible_eq clock, ih]

/-- A search kicks the same unit, if both readings can be stored. -/
theorem chooseVictim (alike : occupancy.Alike offset other) (clock : Shifted offset now later)
    (begun : now ≠ 0) (started : later ≠ 0) (tier : Tier) :
    (occupancy.chooseVictim tier now).1 = (other.chooseVictim tier later).1 ∧
      (occupancy.chooseVictim tier now).2.Alike offset (other.chooseVictim tier later).2 := by
  rw [Occupancy.chooseVictim, Occupancy.chooseVictim, alike.victims_eq, alike.searchVictim_eq clock]
  cases occupancy.searchVictim tier now occupancy.victims probeLimit with
  | none => exact ⟨rfl, alike⟩
  | some slot =>
      exact ⟨rfl, alike.setRecord slot ((alike.record slot).choose clock begun started)⟩

end Alike

end Occupancy

end TierSched
