import Mathlib.Data.List.Forall2
import TierSched.Proofs.Lockstep
import TierSched.Proofs.Shift

/-!
# Decisions depend on clock differences only

Two schedulers are alike for an offset if they differ by nothing but readings in their rosters and
occupancies that are alike for this offset. This is a correspondence, and at readings that are shifted by
the offset it is kept in lockstep: every callback gives the same answer, the same kicks and the same
notices in alike schedulers, and leaves alike schedulers behind. So nothing that happens in a history
depends on when the clock of the host started.

Two provisos are needed. A reading of zero is stored as one when a unit is kicked, so no reading may be
zero. And a task that is stopped without running could go on with a wait that never began, so the
beginning of this wait would not be shifted; tasks are stopped only while they run.
-/

namespace TierSched

open Nanos (Shifted)

/-- The schedulers differ by the readings in their rosters and occupancies only. -/
inductive Scheduler.Alike (offset : Int) (scheduler : Scheduler) : Scheduler → Prop where
  | intro (roster : Roster) (occupancy : Occupancy)
      (rosters : scheduler.roster.Alike offset roster)
      (occupancies : scheduler.occupancy.Alike offset occupancy) :
      Alike offset scheduler { scheduler with roster, occupancy }

/-- The outcomes show the same to the host, and the schedulers are alike. -/
structure Outcome.Alike {Reply : Type} (offset : Int) (first second : Outcome Reply) : Prop where
  reply_eq : first.reply = second.reply
  kicks_eq : first.kicks = second.kicks
  notices_eq : first.notices = second.notices
  scheduler : first.scheduler.Alike offset second.scheduler

variable {offset : Int} {now later : Nanos}

/-- Readings may be shifted by the offset, and nothing else may differ. -/
def Correspondence.shift (offset : Int) : Correspondence where
  switches := Eq
  profiles := Profile.Alike offset
  occupancies := Occupancy.Alike offset
  statistics := Eq
  stoppable profile := profile.phase = .running

theorem Correspondence.lockstep_shift (clock : Shifted offset now later) (begun : now ≠ 0)
    (started : later ≠ 0) : (shift offset).Lockstep now later where
  fresh := Profile.alike_fresh offset
  wake _ _ alike := alike.wake clock
  enqueue _ _ alike := alike.enqueue clock
  mark _ _ alike := alike.mark
  claimable generation _ _ alike := alike.claim generation
  start budget _ _ alike := alike.start budget clock
  stop config requeue _ _ alike running := alike.stop running config clock requeue
  checkCeiling ceiling _ _ alike := alike.checkCeiling ceiling clock
  waitsIn_eq _ _ alike := alike.waitsIn_eq
  takeIdle preferences _ _ alike := alike.takeIdle preferences
  chooseVictim tier _ _ alike := alike.chooseVictim clock begun started tier
  reportRunning unit tier _ _ alike := alike.reportRunning unit tier
  reportIdle unit _ _ alike := alike.reportIdle unit
  reportBusy unit _ _ alike := alike.reportBusy unit
  record hint occurrence _ _ same := congrArg (Statistics.record · hint occurrence) same

namespace Scheduler

variable {scheduler other : Scheduler}

theorem Alike.corresponds (alike : scheduler.Alike offset other) :
    scheduler.Corresponds (.shift offset) other := by
  cases alike with
  | intro roster occupancy rosters occupancies =>
      exact .intro _ roster occupancy _ rfl (Roster.alike_iff_rel.mp rosters) occupancies rfl

theorem Corresponds.alike (corresponds : scheduler.Corresponds (.shift offset) other) :
    scheduler.Alike offset other := by
  cases corresponds with
  | intro _ roster occupancy _ switches rosters occupancies counted =>
      cases switches
      cases counted
      exact .intro roster occupancy (Roster.alike_iff_rel.mpr rosters) occupancies

end Scheduler

theorem Outcome.Rel.alike {Reply : Type} {first second : Outcome Reply}
    (outcomes : first.Rel (Scheduler.Corresponds (.shift offset)) second) :
    first.Alike offset second :=
  ⟨outcomes.reply_eq, outcomes.kicks_eq, outcomes.notices_eq, outcomes.schedulers.alike⟩

/-- The same event was reported, at readings that are shifted and not zero. -/
structure ReportedAlike (offset : Int) (first second : Nanos × Event) : Prop where
  event_eq : first.2 = second.2
  clock : Shifted offset first.1 second.1
  begun : first.1 ≠ 0
  started : second.1 ≠ 0

namespace Scheduler

variable {scheduler other : Scheduler} {history counterpart : List (Nanos × Event)}

/-- Shifted histories show the same to the host at every step, and end in alike schedulers. -/
theorem Alike.run (alike : scheduler.Alike offset other)
    (histories : List.Forall₂ (ReportedAlike offset) history counterpart)
    (regular : ∀ task, scheduler.Along (StopsOnlyRunning task) history) :
    List.Forall₂ (Outcome.Alike offset) (scheduler.outcomes history)
        (other.outcomes counterpart) ∧
      (scheduler.after history).Alike offset (other.after counterpart) := by
  have lockstep : List.Forall₂
      (fun first second => first.2 = second.2 ∧ (Correspondence.shift offset).Lockstep first.1 second.1)
      history counterpart :=
    histories.imp fun _ _ reported => ⟨reported.event_eq,
      Correspondence.lockstep_shift reported.clock reported.begun reported.started⟩
  have admitted : scheduler.Along (Correspondence.shift offset).Admits history := by
    refine (along_forall regular).imp fun scheduler event stops => ?_
    cases event with
    | stop unit task requeue => exact stops task rfl
    | _ => trivial
  rcases alike.corresponds.run lockstep admitted with ⟨outcomes, final⟩
  exact ⟨outcomes.imp fun _ _ => Outcome.Rel.alike, final.alike⟩

theorem alike_initial (offset : Int) (config : Config) (topology : Topology) :
    (initial config topology).Alike offset (initial config topology) := by
  refine .intro _ _ ⟨rfl, rfl, ?_⟩ (.intro _ ?_)
  · intro task
    rw [initial, Roster.get?_empty]
    exact .none
  · intro slot
    refine ⟨rfl, Or.inl ?_⟩
    simp [initial, Occupancy.initial, Occupancy.record]

end Scheduler

namespace Execution

/-- Two executions of the same events, with readings that differ by a constant offset and are never
zero, show the same to the host at every step. They end in schedulers that differ by readings only. -/
theorem clock_shift (first second : Execution) (config_eq : first.config = second.config)
    (topology_eq : first.topology = second.topology) (offset : Int)
    (histories : List.Forall₂ (ReportedAlike offset) first.history second.history)
    (regular : ∀ task, first.initial.Along (Scheduler.StopsOnlyRunning task) first.history) :
    List.Forall₂ (Outcome.Alike offset) (first.initial.outcomes first.history)
        (second.initial.outcomes second.history) ∧
      first.scheduler.Alike offset second.scheduler := by
  have alike : first.initial.Alike offset second.initial := by
    rw [first.initial_eq, second.initial_eq, config_eq, topology_eq]
    exact Scheduler.alike_initial offset second.config second.topology
  exact alike.run histories regular

/-- A task that was demoted by a long run is kicked for the first of two tasks that are woken. -/
def twoWakes (begin : Nanos) : Execution :=
  ofHistory
    [(begin, .start 0 1), (begin + 1000000, .stop 0 1 true), (begin + 1000000, .start 0 1),
      (begin + 1000100, .wake 2 none ⟨false, false⟩), (begin + 1000200, .wake 3 none ⟨false, false⟩)]

/-- The unit is kicked once, whenever the clock started. -/
theorem clock_shift_of_two_wakes :
    List.Forall₂ (ReportedAlike 999) (twoWakes 1).history (twoWakes 1000).history ∧
      (∀ task, (twoWakes 1).initial.Along (Scheduler.StopsOnlyRunning task) (twoWakes 1).history) ∧
        ((twoWakes 1).initial.outcomes (twoWakes 1).history).map Outcome.kicks =
            [[], [], [], [⟨0, .preemption⟩], []] ∧
          List.Forall₂ (Outcome.Alike 999) ((twoWakes 1).initial.outcomes (twoWakes 1).history)
              ((twoWakes 1000).initial.outcomes (twoWakes 1000).history) ∧
            (twoWakes 1).scheduler.Alike 999 (twoWakes 1000).scheduler := by
  have histories :
      List.Forall₂ (ReportedAlike 999) (twoWakes 1).history (twoWakes 1000).history := by
    refine .cons ?_ (.cons ?_ (.cons ?_ (.cons ?_ (.cons ?_ .nil))))
    all_goals exact ⟨rfl, by decide, by decide, by decide⟩
  have regular : ∀ task,
      (twoWakes 1).initial.Along (Scheduler.StopsOnlyRunning task) (twoWakes 1).history := by
    intro task
    by_cases same : 1 = task
    · subst same
      decide +kernel
    · simp [twoWakes, ofHistory, Scheduler.Along, Scheduler.StopsOnlyRunning, same]
  have kicks_eq : ((twoWakes 1).initial.outcomes (twoWakes 1).history).map Outcome.kicks =
      [[], [], [], [⟨0, .preemption⟩], []] := by
    decide +kernel
  exact ⟨histories, regular, kicks_eq,
    (twoWakes 1).clock_shift (twoWakes 1000) rfl rfl 999 histories regular⟩

end Execution

end TierSched
