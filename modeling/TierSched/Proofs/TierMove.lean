import Mathlib.Data.Set.Card
import TierSched.Proofs.Counting
import TierSched.Proofs.Moment
import TierSched.Proofs.Standing

/-!
# Moves between tiers

A task moves to another tier when a run of it ends and when its wait is judged to be too long, and then
it is the task of the event that moves. `Moment.moved` is the set of all tasks that an event moves,
whatever the event is about; it has one member at most, and whether it has one is read off the tiers of
the task of the event. A start moves its task exactly if the wait is judged with a demotion, and then
downwards. A stop moves its task as the answer of `Profile.stop` says.
-/

namespace TierSched

namespace Profile

/-- The end of a run reports the tiers between which it moves the task. -/
theorem stop_fst (profile : Profile) (config : Config) (now : Nanos) (requeue : Bool) :
    (profile.stop config now requeue).1 =
      if profile.phase = .running then
        some (profile.tier, (profile.stop config now requeue).2.tier)
      else none := by
  simp only [stop]
  split <;> rfl

/-- The wait was too long once too often. -/
def Wait.demotes (wait : Wait) : Bool :=
  match wait.judgement with
  | .demotion _ _ => true
  | .tolerated | .breach _ | .unlimited => false

theorem Wait.demotes_iff {wait : Wait} :
    wait.demotes = true ↔ ∃ source target, wait.judgement = .demotion source target := by
  rw [demotes]
  cases wait.judgement with
  | _ => simp

end Profile

namespace Moment

variable (moment : Moment)

/-- The tasks that are tracked before and after the event and whose tier it changes as given. -/
def moved (change : Tier → Tier → Prop) : Set TaskId :=
  {task | ∃ before after, moment.scheduler.profile? task = some before ∧
    moment.next.profile? task = some after ∧ change before.tier after.tier}

/-- The number of tasks that the event moves to a higher tier. -/
noncomputable def improvements : Nat :=
  (moment.moved fun before after => after < before).ncard

/-- The number of tasks that the event moves to a lower tier. -/
noncomputable def worsenings : Nat :=
  (moment.moved fun before after => before < after).ncard

section Moved

variable {moment : Moment} {task : TaskId} {before after : Profile} {change : Tier → Tier → Prop}

theorem tierStep (tracked : moment.scheduler.profile? task = some before)
    (remains : moment.next.profile? task = some after) :
    before.TierStep moment.scheduler.config moment.now task moment.event after := by
  have step := moment.scheduler.step_of_handle moment.now task moment.event
  rcases step.tierStep remains with ⟨previous, observed, moved⟩
  rwa [observed.eq_of_tracked tracked] at moved

/-- Only starts and stops move tasks, and they move no other task than theirs. -/
theorem event_of_mem_moved (irreflexive : ∀ tier, ¬change tier tier)
    (member : task ∈ moment.moved change) :
    (∃ unit, moment.event = .start unit task) ∨
      ∃ unit requeue, moment.event = .stop unit task requeue := by
  rcases member with ⟨before, after, tracked, remains, changed⟩
  cases tierStep tracked remains with
  | kept unended spared tier_eq isNew_eq =>
      rw [tier_eq] at changed
      exact absurd changed (irreflexive _)
  | demoted unit started judged tier_eq rank_eq isNew_eq => exact Or.inl ⟨unit, started⟩
  | classified unit requeue stopped running score_eq runtime_eq tier_eq isNew_eq =>
      exact Or.inr ⟨unit, requeue, stopped⟩

variable (change)

theorem ncard_moved_of_quiet (irreflexive : ∀ tier, ¬change tier tier)
    (unstarted : ∀ unit task, moment.event ≠ .start unit task)
    (unended : ∀ unit task requeue, moment.event ≠ .stop unit task requeue) :
    (moment.moved change).ncard = 0 := by
  have empty : moment.moved change = ∅ := by
    apply Set.eq_empty_iff_forall_notMem.mpr
    intro task member
    rcases event_of_mem_moved irreflexive member with ⟨unit, started⟩ | ⟨unit, requeue, stopped⟩
    · exact unstarted unit task started
    · exact unended unit task requeue stopped
  rw [empty, Set.ncard_empty]

/-- An event about one task moves this task or none. -/
theorem ncard_moved_of_task? (irreflexive : ∀ tier, ¬change tier tier)
    (about : moment.event.task? = some task) [Decidable (task ∈ moment.moved change)] :
    (moment.moved change).ncard = if task ∈ moment.moved change then 1 else 0 := by
  have own : moment.moved change ⊆ {task} := by
    intro other member
    have about_other : moment.event.task? = some other := by
      rcases event_of_mem_moved irreflexive member with ⟨unit, started⟩ | ⟨unit, requeue, stopped⟩
      · rw [started]
        rfl
      · rw [stopped]
        rfl
    exact Option.some.inj (about_other.symm.trans about)
  rcases Set.subset_singleton_iff_eq.mp own with empty | single
  · simp [empty]
  · simp [single]

end Moved

section Event

variable {scheduler : Scheduler} {now : Nanos} {unit : Nat} {task : TaskId}

theorem mem_moved_stop (change : Tier → Tier → Prop) (irreflexive : ∀ tier, ¬change tier tier)
    {requeue : Bool} :
    task ∈ (⟨scheduler, now, .stop unit task requeue⟩ : Moment).moved change ↔
      ∃ tiers ∈ (scheduler.profile? task).bind fun profile =>
        (profile.stop scheduler.config now requeue).1, change tiers.1 tiers.2 := by
  have next_eq := scheduler.profile?_stop now unit task requeue task
  rw [if_pos rfl] at next_eq
  cases tracked : scheduler.profile? task with
  | none => simp [moved, tracked]
  | some profile =>
      rw [tracked, Option.map_some] at next_eq
      simp only [moved, next, outcome_stop, Outcome.scheduler_map, Set.mem_ofPred_eq, tracked,
        next_eq, Option.some.injEq, Option.bind_some, profile.stop_fst]
      split
      · simp
      · rename_i idle
        simp [Profile.stop_of_not_running idle, Profile.moveTo, irreflexive]

theorem not_improved_start :
    task ∉ (⟨scheduler, now, .start unit task⟩ : Moment).moved
      fun before after => after < before := by
  rintro ⟨before, after, tracked, remains, above⟩
  cases tierStep tracked remains with
  | kept unended spared tier_eq isNew_eq =>
      rw [tier_eq] at above
      exact lt_irrefl before.tier.rank above
  | demoted unit started judged tier_eq rank_eq isNew_eq =>
      have above : (after.tier.rank : Nat) < before.tier.rank := above
      omega
  | classified unit requeue stopped running score_eq runtime_eq tier_eq isNew_eq => contradiction

theorem mem_moved_start :
    (task ∈ (⟨scheduler, now, .start unit task⟩ : Moment).moved
      fun before after => before < after) ↔
        ∃ wait ∈ scheduler.judgedWait? now task, wait.demotes = true := by
  constructor
  · rintro ⟨before, after, tracked, remains, below⟩
    cases tierStep tracked remains with
    | kept unended spared tier_eq isNew_eq =>
        rw [tier_eq] at below
        exact absurd below (lt_irrefl before.tier.rank)
    | demoted unit started judged tier_eq rank_eq isNew_eq =>
        rcases Option.map_eq_some_iff.mp judged with ⟨wait, waited, judgement_eq⟩
        refine ⟨wait, ?_, Profile.Wait.demotes_iff.mpr ⟨_, _, judgement_eq⟩⟩
        simp [Scheduler.judgedWait?_eq, tracked, waited]
    | classified unit requeue stopped running score_eq runtime_eq tier_eq isNew_eq => contradiction
  · rintro ⟨wait, judged, demotes⟩
    rw [scheduler.judgedWait?_eq] at judged
    rcases Option.bind_eq_some_iff.mp judged with ⟨before, tracked, waited⟩
    rcases Profile.Wait.demotes_iff.mp demotes with ⟨source, target, judgement_eq⟩
    have verdict_eq : before.verdict? scheduler.config now = some (.demotion source target) := by
      simp [Profile.verdict?, waited, judgement_eq]
    have remains := scheduler.profile?_start now unit task task
    rw [if_pos rfl, Scheduler.observed?_of_profile? tracked, Option.map_some] at remains
    refine ⟨before, _, tracked, remains, ?_⟩
    cases (before.tierStep_start now unit task : before.TierStep scheduler.config _ _ _ _) with
    | kept unended spared tier_eq isNew_eq => exact absurd verdict_eq (spared unit rfl _ _)
    | demoted _ _ judged tier_eq rank_eq isNew_eq =>
        rw [Tier.lt_def, Fin.lt_def, rank_eq]
        exact Nat.lt_succ_self _
    | classified other requeue stopped running score_eq runtime_eq tier_eq isNew_eq =>
        contradiction

end Event

/-- Tasks move up only when a run of theirs ends. -/
theorem improvements_eq :
    moment.improvements =
      match moment.event with
      | .stop _ task requeue =>
        ((moment.scheduler.profile? task).bind fun profile =>
          (profile.stop moment.scheduler.config moment.now requeue).1).toList.countP fun tiers =>
            tiers.2 < tiers.1
      | _ => 0 := by
  classical
  have irreflexive : ∀ tier : Tier, ¬tier < tier := fun tier => lt_irrefl tier.rank
  rcases moment with ⟨scheduler, now, event⟩
  cases event with
  | start unit task =>
      apply (ncard_moved_of_task? (fun before after => after < before) irreflexive rfl).trans
      exact if_neg not_improved_start
  | stop unit task requeue =>
      apply (ncard_moved_of_task? (fun before after => after < before) irreflexive rfl).trans
      rw [mem_moved_stop (fun before after => after < before) irreflexive]
      cases stopped : (scheduler.profile? task).bind fun profile =>
          (profile.stop scheduler.config now requeue).1 with
      | none => simp [stopped]
      | some tiers => simp [stopped, List.countP_cons]
  | _ =>
      exact ncard_moved_of_quiet (fun before after => after < before) irreflexive (by simp)
        (by simp)

/-- Tasks move down when a wait of theirs is judged to be too long or when a run of theirs ends. -/
theorem worsenings_eq :
    moment.worsenings =
      match moment.event with
      | .start _ task =>
        (moment.scheduler.judgedWait? moment.now task).toList.countP Profile.Wait.demotes
      | .stop _ task requeue =>
        ((moment.scheduler.profile? task).bind fun profile =>
          (profile.stop moment.scheduler.config moment.now requeue).1).toList.countP fun tiers =>
            tiers.1 < tiers.2
      | _ => 0 := by
  classical
  have irreflexive : ∀ tier : Tier, ¬tier < tier := fun tier => lt_irrefl tier.rank
  rcases moment with ⟨scheduler, now, event⟩
  cases event with
  | start unit task =>
      apply (ncard_moved_of_task? _ irreflexive rfl).trans
      rw [mem_moved_start]
      cases judged : scheduler.judgedWait? now task with
      | none => simp [judged]
      | some wait => simp [judged, List.countP_cons]
  | stop unit task requeue =>
      apply (ncard_moved_of_task? _ irreflexive rfl).trans
      rw [mem_moved_stop _ irreflexive]
      cases stopped : (scheduler.profile? task).bind fun profile =>
          (profile.stop scheduler.config now requeue).1 with
      | none => simp [stopped]
      | some tiers => simp [stopped, List.countP_cons]
  | _ => exact ncard_moved_of_quiet _ irreflexive (by simp) (by simp)

end Moment

end TierSched
