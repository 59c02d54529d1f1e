import TierSched.Proofs.TaskStep

/-!
# When the sparse flag lags behind the score

The flag of sparse tasks is set anew at the end of every run, from the score that the run leads to. The
score changes in one other place: at the start of a run, a breach too many of the wait budget costs
points, and the flag is left alone there. So a score at the floor or above always comes with the flag,
but a flag can outlive the score that it stands for. It is shown that this happens exactly after a start
that makes the score fall below the floor, until the next run of the task ends or the task exits.

`TaskView.Rated` says where the score and the flag of a task come from when an event is over, and
`TaskView.Step.rated` that there is no other way. All that follows is checked against these cases.
-/

namespace TierSched

theorem Score.neutral_lt_sparseFloor : Score.neutral < Score.sparseFloor := by
  decide

/-- Judging a wait can cost points and does not touch the flag. -/
theorem WaitBudget.rating_judge (budget : WaitBudget) (profile : Profile) (wait : Nanos) :
    (budget.judge profile wait).2.isSparse = profile.isSparse ∧
      (budget.judge profile wait).2.score ≤ profile.score := by
  unfold judge
  split
  · exact ⟨rfl, UInt8.le_refl _⟩
  · split
    · exact ⟨rfl, UInt8.le_refl _⟩
    · dsimp only
      split
      · exact ⟨rfl, UInt8.le_refl _⟩
      · exact ⟨rfl, profile.score.penalized_le budget.penalty⟩

namespace Profile

theorem rating_start (profile : Profile) (budget : WaitBudget) (now : Nanos) :
    (profile.start budget now).2.isSparse = profile.isSparse ∧
      (profile.start budget now).2.score ≤ profile.score := by
  simp only [start]
  split
  · exact WaitBudget.rating_judge budget _ _
  · exact ⟨rfl, UInt8.le_refl _⟩

/-- The end of a run sets the flag from the score. -/
theorem isSparse_stop_iff {profile : Profile} (running : profile.phase = .running) (config : Config)
    (now : Nanos) (requeue : Bool) :
    (profile.stop config now requeue).2.isSparse = true ↔
      Score.sparseFloor ≤ (profile.stop config now requeue).2.score := by
  simp only [stop, if_pos running]
  exact decide_eq_true_iff

/-- The flag is set, but the score is below the floor. -/
def Lags (profile : Profile) : Prop :=
  profile.isSparse = true ∧ profile.score < Score.sparseFloor

end Profile

namespace TaskView

variable {config : Config} {now : Nanos} {task : TaskId} {event : Event}

/-- The event ends a run of the task or makes the task exit. -/
def RenewedBy (view : TaskView) (task : TaskId) : Event → Prop
  | .stop _ stopped _ =>
    stopped = task ∧ ∃ profile, view.profile? = some profile ∧ profile.phase = .running
  | .exit gone => gone = task
  | _ => False

theorem task?_eq_of_renewedBy {view : TaskView} (renewed : view.RenewedBy task event) :
    event.task? = some task := by
  cases event with
  | stop unit stopped requeue => exact congrArg some renewed.1
  | exit gone => exact congrArg some renewed
  | _ => exact absurd renewed id

/-- Where the score and the flag of a task come from when an event is over. -/
inductive Rated (before : TaskView) (task : TaskId) (event : Event) (profile : Profile) : Prop where
  | fresh (untracked : before.profile? = none) (unset : profile.isSparse = false)
      (low : profile.score < Score.sparseFloor)
  | kept (previous : Profile) (tracked : before.profile? = some previous)
      (flag_eq : profile.isSparse = previous.isSparse) (score_eq : profile.score = previous.score)
      (unrenewed : ¬before.RenewedBy task event)
  | judged (previous : Profile) (unit : Nat) (tracked : before.profile? = some previous)
      (started : event = .start unit task) (flag_eq : profile.isSparse = previous.isSparse)
      (score_le : profile.score ≤ previous.score)
  | renewed (accurate : profile.isSparse = true ↔ Score.sparseFloor ≤ profile.score)
      (renewed : before.RenewedBy task event)

theorem Rated.of_observes {before : TaskView} {previous profile : Profile}
    (observed : before.Observes config previous) (flag_eq : profile.isSparse = previous.isSparse)
    (score_eq : profile.score = previous.score) (unrenewed : ¬before.RenewedBy task event) :
    before.Rated task event profile := by
  rcases observed with tracked | ⟨untracked, rfl⟩
  · exact .kept previous tracked flag_eq score_eq unrenewed
  · refine .fresh untracked flag_eq ?_
    rw [score_eq]
    exact Score.neutral_lt_sparseFloor

theorem Step.rated {before after : TaskView} {profile : Profile}
    (step : Step config now task event before after) (tracked : after.profile? = some profile) :
    before.Rated task event profile := by
  cases step with
  | unaffected untracked =>
      refine .kept profile tracked rfl rfl ?_
      intro renewed
      rw [(untracked (task?_eq_of_renewedBy renewed)).1] at tracked
      contradiction
  | wake previous previousUnit flags kicked observed =>
      rw [← Option.some.inj tracked]
      exact .of_observes observed rfl rfl id
  | enqueue previous flags observed accepted =>
      rw [← Option.some.inj tracked, Profile.enqueue_of_not_queued accepted]
      exact .of_observes observed rfl rfl id
  | refuse previous flags wasTracked queued => exact .kept profile tracked rfl rfl id
  | enqueueUntracked flags slice untracked => contradiction
  | pass unit left split => exact .kept profile tracked rfl rfl id
  | handOut unit source entry left live split =>
      rcases Option.map_eq_some_iff.mp tracked with ⟨previous, wasTracked, rfl⟩
      exact .kept previous wasTracked rfl rfl id
  | start previous unit observed =>
      rw [← Option.some.inj tracked]
      rcases previous.rating_start config.waitBudget now with ⟨flag_eq, score_le⟩
      rcases observed with wasTracked | ⟨untracked, rfl⟩
      · exact .judged previous unit wasTracked rfl flag_eq score_le
      · refine .fresh untracked flag_eq ?_
        exact UInt8.lt_of_le_of_lt score_le Score.neutral_lt_sparseFloor
  | stop previous unit requeue wasTracked =>
      rw [← Option.some.inj tracked]
      by_cases running : previous.phase = .running
      · exact .renewed (Profile.isSparse_stop_iff running config now requeue)
          ⟨rfl, previous, wasTracked, running⟩
      · rw [Profile.stop_of_not_running running]
        refine .kept previous wasTracked rfl rfl ?_
        rintro ⟨_, same, same_eq, sameRunning⟩
        rw [wasTracked] at same_eq
        rw [← Option.some.inj same_eq] at sameRunning
        exact running sameRunning
  | tick previous unit wasTracked =>
      rcases previous.checkCeiling_eq config.runCeiling now with ⟨kicked, after_eq⟩
      rw [← Option.some.inj tracked, after_eq]
      exact .kept previous wasTracked rfl rfl id
  | exit => contradiction

/-- A score at the floor or above comes with the flag. -/
def FlagsSparse (view : TaskView) : Prop :=
  ∀ profile, view.profile? = some profile → Score.sparseFloor ≤ profile.score →
    profile.isSparse = true

theorem FlagsSparse.step {before after : TaskView} (flags : before.FlagsSparse)
    (step : Step config now task event before after) : after.FlagsSparse := by
  intro profile tracked high
  cases step.rated tracked with
  | fresh untracked unset low => exact absurd high (UInt8.not_le.mpr low)
  | kept previous wasTracked flag_eq score_eq unrenewed =>
      rw [score_eq] at high
      exact flag_eq.trans (flags previous wasTracked high)
  | judged previous unit wasTracked started flag_eq score_le =>
      exact flag_eq.trans (flags previous wasTracked (UInt8.le_trans high score_le))
  | renewed accurate renewed => exact accurate.mpr high

/-- The flag of the task lags behind its score. -/
def FlagLags (view : TaskView) : Prop :=
  ∃ profile, view.profile? = some profile ∧ profile.Lags

/-- The task starts with a score at the floor or above, and this costs so many points that the score
is below the floor. -/
def FallsBelowFloor (before after : TaskView) (task : TaskId) (event : Event) : Prop :=
  (∃ unit, event = .start unit task) ∧
    (∃ profile, before.profile? = some profile ∧ Score.sparseFloor ≤ profile.score) ∧
      ∃ profile, after.profile? = some profile ∧ profile.score < Score.sparseFloor

variable {before after : TaskView}

theorem flagLags_of_fallsBelowFloor (step : Step config now task event before after)
    (flags : before.FlagsSparse) (falls : FallsBelowFloor before after task event) :
    after.FlagLags := by
  rcases falls with ⟨⟨unit, rfl⟩, ⟨profile, tracked, high⟩, next, nextTracked, low⟩
  refine ⟨next, nextTracked, ?_, low⟩
  have sparse := flags profile tracked high
  cases step.rated nextTracked with
  | fresh untracked unset _ =>
      rw [untracked] at tracked
      contradiction
  | kept previous wasTracked flag_eq score_eq unrenewed =>
      rw [tracked] at wasTracked
      rwa [flag_eq, ← Option.some.inj wasTracked]
  | judged previous _ wasTracked started flag_eq score_le =>
      rw [tracked] at wasTracked
      rwa [flag_eq, ← Option.some.inj wasTracked]
  | renewed accurate renewed => exact absurd renewed id

theorem FlagLags.step (lags : before.FlagLags) (step : Step config now task event before after)
    (unrenewed : ¬before.RenewedBy task event) : after.FlagLags := by
  rcases lags with ⟨profile, tracked, sparse, low⟩
  have stays : event ≠ .exit task := by
    rintro rfl
    exact unrenewed rfl
  rcases step.remains_tracked tracked stays with ⟨next, nextTracked⟩
  refine ⟨next, nextTracked, ?_⟩
  cases step.rated nextTracked with
  | fresh untracked unset _ =>
      rw [untracked] at tracked
      contradiction
  | kept previous wasTracked flag_eq score_eq _ =>
      rw [tracked, Option.some.injEq] at wasTracked
      rw [Profile.Lags, flag_eq, score_eq, ← wasTracked]
      exact ⟨sparse, low⟩
  | judged previous unit wasTracked started flag_eq score_le =>
      rw [tracked, Option.some.injEq] at wasTracked
      rw [← wasTracked] at flag_eq score_le
      exact ⟨flag_eq.trans sparse, UInt8.lt_of_le_of_lt score_le low⟩
  | renewed accurate renewed => exact absurd renewed unrenewed

/-- A flag that lags after an event did so before it, or the event made the score fall. -/
theorem FlagLags.origin (lags : after.FlagLags) (step : Step config now task event before after) :
    (before.FlagLags ∧ ¬before.RenewedBy task event) ∨
      FallsBelowFloor before after task event := by
  rcases lags with ⟨profile, tracked, sparse, low⟩
  cases step.rated tracked with
  | fresh untracked unset _ =>
      rw [unset] at sparse
      contradiction
  | kept previous wasTracked flag_eq score_eq unrenewed =>
      rw [flag_eq] at sparse
      rw [score_eq] at low
      exact Or.inl ⟨⟨previous, wasTracked, sparse, low⟩, unrenewed⟩
  | judged previous unit wasTracked started flag_eq score_le =>
      rw [flag_eq] at sparse
      by_cases high : Score.sparseFloor ≤ previous.score
      · exact Or.inr ⟨⟨unit, started⟩, ⟨previous, wasTracked, high⟩, profile, tracked, low⟩
      · rw [UInt8.not_le] at high
        rw [started]
        exact Or.inl ⟨⟨previous, wasTracked, sparse, high⟩, id⟩
  | renewed accurate renewed => exact absurd (accurate.mp sparse) (UInt8.not_le.mpr low)

end TaskView

namespace Scheduler

/-- In the history no run of the task ends, and it does not exit. -/
def Unrenewed (scheduler : Scheduler) (task : TaskId) : List (Nanos × Event) → Prop
  | [] => True
  | (now, event) :: later =>
    ¬(scheduler.view task).RenewedBy task event ∧
      (scheduler.handle now event).scheduler.Unrenewed task later

/-- The score of the task fell below the floor when it started, and since then no run of it has ended
and it has not exited. -/
def FellIn (initial : Scheduler) (history : List (Nanos × Event)) (task : TaskId) : Prop :=
  ∃ earlier now event later, history = earlier ++ (now, event) :: later ∧
    TaskView.FallsBelowFloor ((initial.after earlier).view task)
      (((initial.after earlier).handle now event).scheduler.view task) task event ∧
        ((initial.after earlier).handle now event).scheduler.Unrenewed task later

theorem Unrenewed.concat {scheduler : Scheduler} {task : TaskId} {history : List (Nanos × Event)}
    (unrenewed : scheduler.Unrenewed task history) (now : Nanos) {event : Event}
    (last : ¬((scheduler.after history).view task).RenewedBy task event) :
    scheduler.Unrenewed task (history ++ [(now, event)]) := by
  induction history generalizing scheduler with
  | nil => exact ⟨last, trivial⟩
  | cons reported later ih => exact ⟨unrenewed.1, ih unrenewed.2 last⟩

theorem FellIn.concat {initial : Scheduler} {task : TaskId} {history : List (Nanos × Event)}
    (fell : initial.FellIn history task) (now : Nanos) {event : Event}
    (last : ¬((initial.after history).view task).RenewedBy task event) :
    initial.FellIn (history ++ [(now, event)]) task := by
  rcases fell with ⟨earlier, startedAt, start, later, rfl, falls, unrenewed⟩
  rw [after_append] at last
  refine ⟨earlier, startedAt, start, later ++ [(now, event)], ?_, falls, unrenewed.concat now last⟩
  rw [List.append_assoc, List.cons_append]

theorem flagLags_after {scheduler : Scheduler} {task : TaskId} {history : List (Nanos × Event)}
    (lags : (scheduler.view task).FlagLags) (unrenewed : scheduler.Unrenewed task history) :
    ((scheduler.after history).view task).FlagLags := by
  induction history generalizing scheduler with
  | nil => exact lags
  | cons reported later ih =>
      have step := scheduler.step_of_handle reported.1 task reported.2
      exact ih (lags.step step unrenewed.1) unrenewed.2

end Scheduler

namespace Execution

theorem flagsSparse (execution : Execution) (task : TaskId) :
    (execution.scheduler.view task).FlagsSparse := by
  apply execution.induction (motive := fun _ scheduler => (scheduler.view task).FlagsSparse)
  · intro profile tracked
    rw [Scheduler.view_initial] at tracked
    contradiction
  · intro _ scheduler now event flags
    exact flags.step (scheduler.step_of_handle now task event)

theorem flagLags_iff (execution : Execution) (task : TaskId) :
    (execution.scheduler.view task).FlagLags ↔
      execution.initial.FellIn execution.history task := by
  constructor
  · refine Scheduler.after_induction (motive := fun history scheduler =>
      (scheduler.view task).FlagLags → execution.initial.FellIn history task)
      execution.initial ?_ ?_ execution.history
    · rintro ⟨profile, tracked, _⟩
      rw [execution.initial_eq, Scheduler.view_initial] at tracked
      contradiction
    · intro history now event ih lags
      rcases lags.origin ((execution.initial.after history).step_of_handle now task event) with
        ⟨before, unrenewed⟩ | falls
      · exact (ih before).concat now unrenewed
      · exact ⟨history, now, event, [], rfl, falls, trivial⟩
  · rintro ⟨earlier, now, event, later, history_eq, falls, unrenewed⟩
    have flags := flagsSparse { execution with history := earlier } task
    have step := (execution.initial.after earlier).step_of_handle now task event
    have lags := TaskView.flagLags_of_fallsBelowFloor step flags falls
    have still := Scheduler.flagLags_after lags unrenewed
    rw [scheduler, history_eq, Scheduler.after_append]
    exact still

/-- A score at the floor or above always comes with the flag. The flag comes with a lower score exactly
if the score fell below the floor at a start, and neither has a run of the task ended since nor has the
task exited. -/
theorem sparse_flag_lags_iff (execution : Execution) (task : TaskId) (profile : Profile)
    (tracked : execution.scheduler.profile? task = some profile) :
    (Score.sparseFloor ≤ profile.score → profile.isSparse = true) ∧
      (profile.isSparse = true ∧ profile.score < Score.sparseFloor ↔
        execution.initial.FellIn execution.history task) := by
  refine ⟨execution.flagsSparse task profile tracked, ?_⟩
  rw [← execution.flagLags_iff]
  constructor
  · intro lags
    exact ⟨profile, tracked, lags⟩
  · rintro ⟨same, same_eq, lags⟩
    change execution.scheduler.profile? task = some same at same_eq
    rw [tracked] at same_eq
    rwa [Option.some.inj same_eq]

/-- Five short runs, and then a wait over the budget. -/
def lateStart : Execution :=
  ofConfig { units := 1, violationLimit := 1 } (by decide)
    [(1000, .start 0 1), (1000, .stop 0 1 false), (1000, .start 0 1), (1000, .stop 0 1 false),
      (1000, .start 0 1), (1000, .stop 0 1 false), (1000, .start 0 1), (1000, .stop 0 1 false),
      (1000, .start 0 1), (1000, .stop 0 1 false), (1000, .wake 1 none ⟨false, false⟩),
      (2001000, .start 0 1)]

/-- The late start costs the task 30 points, and it keeps the flag. -/
theorem rating_lateStart : ∃ profile, lateStart.scheduler.profile? 1 = some profile ∧
    profile.isSparse = true ∧ profile.score = 40 := by
  have rating : (lateStart.scheduler.profile? 1).map
      (fun profile => (profile.isSparse, profile.score)) = some (true, 40) := by
    decide +kernel
  rcases Option.map_eq_some_iff.mp rating with ⟨profile, tracked, rating_eq⟩
  exact ⟨profile, tracked, (Prod.mk.inj rating_eq).1, (Prod.mk.inj rating_eq).2⟩

theorem sparse_flag_lags_iff_of_late_start :
    ∃ profile, lateStart.scheduler.profile? 1 = some profile ∧ profile.isSparse = true ∧
      profile.score < Score.sparseFloor ∧
        lateStart.initial.FellIn lateStart.history 1 := by
  rcases rating_lateStart with ⟨profile, tracked, sparse, score_eq⟩
  have low : profile.score < Score.sparseFloor := by
    rw [score_eq]
    decide
  exact ⟨profile, tracked, sparse, low,
    (lateStart.sparse_flag_lags_iff 1 profile tracked).2.mp ⟨sparse, low⟩⟩

/-- The flag can outlive the score that it stands for. -/
theorem sparse_flag_outlives_score :
    ¬∀ (execution : Execution) (task : TaskId) (profile : Profile),
      execution.scheduler.profile? task = some profile →
        (profile.isSparse = true ↔ Score.sparseFloor ≤ profile.score) := by
  intro accurate
  rcases rating_lateStart with ⟨profile, tracked, sparse, score_eq⟩
  have high := (accurate lateStart 1 profile tracked).mp sparse
  rw [score_eq] at high
  revert high
  decide

end Execution

end TierSched
