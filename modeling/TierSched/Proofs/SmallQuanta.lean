import TierSched.Proofs.Checked.Durations
import TierSched.Proofs.FullRoster
import TierSched.Proofs.SparseFlag
import TierSched.Proofs.SteadyRuns

/-!
# Small quanta

Slices and the threshold of short runs are shares of the quantum, rounded down to whole nanoseconds. The
limits for accepted configurations leave room for a quantum so small that slices of different tiers
coincide, that a tier has a slice of nothing, or that no run counts as short. This module says from
which quantum on this does not happen.

It also says when a task is granted a slice of nothing. A task reaches a tier that has none through
short runs only. If no run counts as short, no task ever gets there, because its score stays where new
tasks begin or below, which is `Profile.Subdued`. So the smallest quantum has to meet the greatest
threshold, and then ten runs of no length suffice.
-/

namespace TierSched

namespace Tier

theorem le_toNat_quantumShare (tier : Tier) : 700 ≤ tier.quantumShare.toNat := by
  cases tier <;> decide

theorem toNat_quantumShare_add_le {left right : Tier} (below : left < right) :
    left.quantumShare.toNat + 100 ≤ right.quantumShare.toNat := by
  revert below
  cases left <;> cases right <;> decide

/-- The tiers from the one of new tasks downwards have the whole quantum or more. -/
theorem le_toNat_quantumShare_of_low {tier : Tier} (low : .interactive ≤ tier) :
    1000 ≤ tier.quantumShare.toNat := by
  revert low
  cases tier <;> decide

theorem toNat_quantumShare_lt_of_high {tier : Tier} (high : tier ≤ .critical) :
    tier.quantumShare.toNat < 1000 := by
  revert high
  cases tier <;> decide

theorem interactive_le_iff {tier : Tier} : .interactive ≤ tier ↔ ¬tier ≤ .gaming := by
  cases tier <;> decide

end Tier

/-- A share is positive if it comes to a whole nanosecond. -/
theorem Nanos.pos_iff_of_toNat_eq {share : Nanos} {product : Nat}
    (toNat_eq : share.toNat = product / 1000) : 0 < share ↔ 1000 ≤ product := by
  rw [UInt64.lt_iff_toNat_lt, toNat_eq]
  change 0 < _ / 1000 ↔ _
  omega

namespace Config.Accepted

variable {config : Config} (accepted : config.Accepted)
include accepted

theorem quantum_pos : 0 < config.quantum.toNat := by
  apply Nat.pos_of_ne_zero
  intro zero
  exact accepted.quantum_ne_zero (UInt64.toNat_inj.mp zero)

theorem slice_pos_iff (tier : Tier) :
    0 < tier.slice config.quantum ↔
      1000 ≤ config.quantum.toNat * tier.quantumShare.toNat :=
  Nanos.pos_iff_of_toNat_eq (accepted.toNat_slice tier)

theorem shortRunThreshold_pos_iff :
    0 < config.shortRunThreshold ↔
      1000 ≤ config.quantum.toNat * config.sparseShare.toNat :=
  Nanos.pos_iff_of_toNat_eq accepted.toNat_shortRunThreshold

/-- With the smallest quantum only the greatest threshold is any. -/
theorem shortRunThreshold_eq_zero (quantum_eq : config.quantum.toNat = 1)
    (less : config.sparseShare.toNat ≠ 1000) : config.shortRunThreshold = 0 := by
  have share_le := UInt64.le_iff_toNat_le.mp accepted.sparseShare_le
  simp only [UInt64.reduceToNat] at share_le
  by_contra attainable
  rw [← Ne, ← UInt64.pos_iff_ne_zero, accepted.shortRunThreshold_pos_iff, quantum_eq] at attainable
  omega

/-- The highest tier is the first one whose slice vanishes. -/
theorem slices_pos_iff :
    (∀ tier : Tier, 0 < tier.slice config.quantum) ↔ 2 ≤ config.quantum.toNat := by
  simp only [accepted.slice_pos_iff]
  constructor
  · intro positive
    have first := positive .criticalLatency
    simp only [Tier.quantumShare, UInt64.reduceToNat] at first
    omega
  · intro enough tier
    have product := Nat.mul_le_mul enough tier.le_toNat_quantumShare
    omega

/-- The slices of adjacent tiers differ by a tenth of the quantum. -/
theorem slices_lt_iff :
    (∀ left right : Tier, left < right → left.slice config.quantum < right.slice config.quantum) ↔
      10 ≤ config.quantum.toNat := by
  simp only [UInt64.lt_iff_toNat_lt, accepted.toNat_slice]
  constructor
  · intro ordered
    have first := ordered .criticalLatency .realtime (by decide)
    have second := ordered .realtime .critical (by decide)
    have third := ordered .critical .gaming (by decide)
    have fourth := ordered .gaming .interactive (by decide)
    have fifth := ordered .interactive .batch (by decide)
    have sixth := ordered .batch .background (by decide)
    simp only [Tier.quantumShare, UInt64.reduceToNat] at first second third fourth fifth sixth
    omega
  · intro enough left right below
    have apart := Nat.mul_le_mul_left config.quantum.toNat (Tier.toNat_quantumShare_add_le below)
    rw [Nat.mul_add] at apart
    omega

end Config.Accepted

namespace Profile

/-- The standing is not above the one of a new task. -/
structure Subdued (profile : Profile) : Prop where
  score_le : profile.score ≤ Score.neutral
  interactive_le : .interactive ≤ profile.tier

variable {config : Config} {profile : Profile}

theorem subdued_fresh (config : Config) : (fresh config).Subdued :=
  ⟨UInt8.le_refl _, Nat.le_refl _⟩

namespace Subdued

theorem start (subdued : profile.Subdued) (now : Nanos) :
    (profile.start config.waitBudget now).2.Subdued := by
  have score_le := (profile.rating_start config.waitBudget now).2
  refine ⟨UInt8.le_trans score_le subdued.score_le, ?_⟩
  have moved : profile.TierStep config now 0 (.start 0 0)
      (profile.start config.waitBudget now).2 := profile.tierStep_start now 0 0
  cases moved with
  | kept unended spared tier_eq isNew_eq =>
      rw [tier_eq]
      exact subdued.interactive_le
  | demoted unit started judged tier_eq rank_eq isNew_eq =>
      refine Nat.le_trans subdued.interactive_le ?_
      rw [rank_eq]
      exact Nat.le_succ _
  | classified unit requeue stopped running score_eq runtime_eq tier_eq isNew_eq =>
      contradiction

/-- If no run is short, the end of a run does not raise the score. -/
theorem stop (subdued : profile.Subdued) (unattainable : config.shortRunThreshold = 0) (now : Nanos)
    (requeue : Bool) : (profile.stop config now requeue).2.Subdued := by
  by_cases running : profile.phase = .running
  · have lowered : profile.score.afterRun (Nanos.elapsed profile.startedAt now)
        config.shortRunThreshold ≤ Score.neutral := by
      have score_le := UInt8.le_iff_toNat_le.mp subdued.score_le
      rw [UInt8.le_iff_toNat_le, Score.toNat_afterRun, unattainable, if_neg UInt64.not_lt_zero]
      omega
    simp only [Profile.stop, if_pos running]
    refine ⟨lowered, Tier.interactive_le_iff.mpr ?_⟩
    intro risen
    have high := (Score.tier_le_iff (by decide)).mp risen
    exact absurd (UInt8.le_trans high lowered) (by decide)
  · rw [stop_of_not_running running]
    exact ⟨subdued.score_le, subdued.interactive_le⟩

end Subdued

/-- The slice of a task is positive if the one of its tier is. -/
theorem WellFormed.slice_pos (wellFormed : profile.WellFormed config) (accepted : config.Accepted)
    (positive : 0 < profile.tier.slice config.quantum) : 0 < profile.slice := by
  rcases wellFormed.slice_eq with slice_eq | ⟨_, _, slice_eq⟩
  · rw [slice_eq]
    exact positive
  · have quantum_pos := accepted.quantum_pos
    rw [UInt64.lt_iff_toNat_lt, slice_eq]
    exact Nat.lt_of_lt_of_le quantum_pos (Nat.le_add_right _ _)

end Profile

namespace TaskView

variable {config : Config} {now : Nanos} {task : TaskId} {event : Event} {before after : TaskView}

theorem Observes.subdued {profile : Profile} (observed : before.Observes config profile)
    (subdued : ∀ profile, before.profile? = some profile → profile.Subdued) : profile.Subdued := by
  rcases observed with tracked | ⟨_, rfl⟩
  · exact subdued profile tracked
  · exact Profile.subdued_fresh config

theorem Step.subdued (step : Step config now task event before after)
    (unattainable : config.shortRunThreshold = 0)
    (subdued : ∀ profile, before.profile? = some profile → profile.Subdued) {next : Profile}
    (tracked : after.profile? = some next) : next.Subdued := by
  cases step with
  | unaffected untracked => exact subdued next tracked
  | wake previous previousUnit flags kicked observed =>
      rcases observed.subdued subdued with ⟨score_le, interactive_le⟩
      rw [← Option.some.inj tracked]
      exact ⟨score_le, interactive_le⟩
  | enqueue previous flags observed unqueued =>
      rcases observed.subdued subdued with ⟨score_le, interactive_le⟩
      rw [← Option.some.inj tracked, Profile.enqueue_of_not_queued unqueued]
      exact ⟨score_le, interactive_le⟩
  | refuse previous flags wasTracked queued => exact subdued next tracked
  | enqueueUntracked flags slice untracked => contradiction
  | pass unit left split => exact subdued next tracked
  | handOut unit source entry left live split =>
      rcases Option.map_eq_some_iff.mp tracked with ⟨previous, wasTracked, rfl⟩
      rcases subdued previous wasTracked with ⟨score_le, interactive_le⟩
      exact ⟨score_le, interactive_le⟩
  | start previous unit observed =>
      rw [← Option.some.inj tracked]
      exact (observed.subdued subdued).start now
  | stop previous unit requeue wasTracked =>
      rw [← Option.some.inj tracked]
      exact (subdued previous wasTracked).stop unattainable now requeue
  | tick previous unit wasTracked =>
      rcases previous.checkCeiling_eq config.runCeiling now with ⟨kicked, after_eq⟩
      rcases subdued previous wasTracked with ⟨score_le, interactive_le⟩
      rw [← Option.some.inj tracked, after_eq]
      exact ⟨score_le, interactive_le⟩
  | exit => contradiction

end TaskView

/-- The slice that a reply grants. -/
def Reply.slice? : Reply → Option Nanos
  | .none => Option.none
  | .placed placement => some placement.slice
  | .dispatched assignment => assignment.map Assignment.slice

namespace Scheduler

/-- The slices that are granted in a history, in order. -/
def repliedSlices (scheduler : Scheduler) (history : List (Nanos × Event)) : List Nanos :=
  (scheduler.outcomes history).filterMap fun outcome => outcome.reply.slice?

theorem repliedSlices_append (scheduler : Scheduler) (earlier later : List (Nanos × Event)) :
    scheduler.repliedSlices (earlier ++ later) =
      scheduler.repliedSlices earlier ++ (scheduler.after earlier).repliedSlices later := by
  rw [repliedSlices, outcomes_append, List.filterMap_append]
  rfl

theorem repliedSlices_singleton (scheduler : Scheduler) (now : Nanos) (event : Event) :
    scheduler.repliedSlices [(now, event)] =
      (scheduler.handle now event).reply.slice?.toList := by
  rw [repliedSlices, outcomes, outcomes, List.filterMap_cons]
  cases (scheduler.handle now event).reply.slice? with
  | none => rfl
  | some slice => rfl

variable {scheduler : Scheduler} {now : Nanos}

theorem slice_wake (task : TaskId) (previous : Option Nat) (flags : WakeFlags) :
    (scheduler.wake now task previous flags).reply.slice = scheduler.grantedSlice task := by
  rcases woken : ((scheduler.observed? task).map fun profile => (profile.tier, profile.slice)).getD
    (.interactive, scheduler.config.quantum) with ⟨tier, slice⟩
  rcases scheduler.wake_eq_place now task previous flags tier slice woken with ⟨reply_eq, _⟩
  rw [reply_eq, slice_place, grantedSlice]
  cases observed : scheduler.observed? task with
  | none =>
      rw [observed] at woken
      exact (congrArg Prod.snd woken).symm
  | some profile =>
      rw [observed] at woken
      exact (congrArg Prod.snd woken).symm

theorem slice_pushed {task : TaskId} {pushed : Profile.Enqueued}
    (queued : scheduler.pushed? now task = some pushed) :
    pushed.slice = scheduler.grantedSlice task := by
  rw [grantedSlice]
  rcases pushed?_cases queued with ⟨refused, rfl⟩ | ⟨profile, observed, rfl⟩
  · rw [refused]
    rfl
  · rw [observed]
    rfl

/-- An entry that waits after an event waited before, or it has the slice of its task. -/
theorem slice_of_mem_entries {event : Event} {tier : Tier} {entry : Entry}
    (member : entry ∈ (scheduler.handle now event).scheduler.queues.entries tier) :
    entry ∈ scheduler.queues.entries tier ∨ entry.slice = scheduler.grantedSlice entry.task := by
  rw [queues_handle] at member
  rcases ReadyQueues.mem_entries_performAll member with waited | pushed
  · exact Or.inl waited
  · right
    have causes := causes_of_mem_operations pushed
    cases event with
    | enqueue task flags =>
        rcases List.mem_map.mp pushed with ⟨enqueued, queued, push_eq⟩
        cases push_eq
        exact slice_pushed (Option.mem_toList.mp queued)
    | _ => exact absurd causes id

/-- A slice that is granted is the one of a task or the one of a waiting entry. -/
theorem slice_of_reply {event : Event} {slice : Nanos}
    (granted : (scheduler.handle now event).reply.slice? = some slice) :
    (∃ task, slice = scheduler.grantedSlice task) ∨
      ∃ tier, ∃ entry ∈ scheduler.queues.entries tier, slice = entry.slice := by
  cases event with
  | wake task previous flags =>
      left
      refine ⟨task, ?_⟩
      rw [← scheduler.slice_wake task previous flags]
      exact (Option.some.inj granted).symm
  | dispatch unit =>
      right
      change (scheduler.dispatch unit).reply.map Assignment.slice = some slice at granted
      rw [reply_dispatch, Option.map_map] at granted
      rcases Option.map_eq_some_iff.mp granted with ⟨⟨tier, entry⟩, taken, slice_eq⟩
      exact ⟨tier, entry, (draw_sound _ _).mem_of_taken taken, slice_eq.symm⟩
  | _ => contradiction

end Scheduler

namespace Execution

variable (execution : Execution)

theorem subdued (unattainable : execution.config.shortRunThreshold = 0) (task : TaskId)
    (profile : Profile) (tracked : execution.scheduler.profile? task = some profile) :
    profile.Subdued := by
  apply execution.profile_induction task ?_ profile tracked
  intro now event before after step subdued next nextTracked
  exact step.subdued unattainable subdued nextTracked

theorem subdued_of_observed (unattainable : execution.config.shortRunThreshold = 0) (task : TaskId)
    {profile : Profile} (observed : execution.scheduler.observed? task = some profile) :
    profile.Subdued := by
  have observes : (execution.scheduler.view task).Observes execution.scheduler.config profile :=
    Scheduler.observed?_eq_some observed
  exact observes.subdued (execution.subdued unattainable task)

section Positive

variable (plentiful :
  ¬(execution.config.quantum.toNat = 1 ∧ execution.config.sparseShare.toNat = 1000))
include plentiful

theorem grantedSlice_pos (task : TaskId) : 0 < execution.scheduler.grantedSlice task := by
  have quantum_pos := execution.accepted.quantum_pos
  rw [Scheduler.grantedSlice]
  cases observed : execution.scheduler.observed? task with
  | none =>
      rw [execution.config_eq]
      exact UInt64.lt_iff_toNat_lt.mpr quantum_pos
  | some profile =>
      apply (execution.wellFormed_of_observed task observed).slice_pos execution.accepted
      by_cases enough : 2 ≤ execution.config.quantum.toNat
      · exact execution.accepted.slices_pos_iff.mpr enough profile.tier
      · have quantum_eq : execution.config.quantum.toNat = 1 := by omega
        have unattainable := execution.accepted.shortRunThreshold_eq_zero quantum_eq
          fun share_eq => plentiful ⟨quantum_eq, share_eq⟩
        have subdued := execution.subdued_of_observed unattainable task observed
        have share_le := Tier.le_toNat_quantumShare_of_low subdued.interactive_le
        rw [execution.accepted.slice_pos_iff]
        exact Nat.le_trans share_le (Nat.le_mul_of_pos_left _ quantum_pos)

theorem entry_slice_pos (tier : Tier) (entry : Entry)
    (member : entry ∈ execution.scheduler.queues.entries tier) : 0 < entry.slice := by
  revert tier entry
  apply Scheduler.after_induction
    (motive := fun _ scheduler => ∀ tier, ∀ entry ∈ scheduler.queues.entries tier, 0 < entry.slice)
    execution.initial
  · intro tier entry member
    rw [execution.initial_eq] at member
    simp [Scheduler.initial] at member
  · intro earlier now event positive tier entry member
    rcases Scheduler.slice_of_mem_entries member with waited | slice_eq
    · exact positive tier entry waited
    · rw [slice_eq]
      exact grantedSlice_pos { execution with history := earlier } plentiful entry.task

theorem repliedSlices_pos (history : List (Nanos × Event)) :
    ∀ slice ∈ execution.initial.repliedSlices history, 0 < slice := by
  induction history using List.reverseRecOn with
  | nil =>
      intro slice impossible
      contradiction
  | append_singleton earlier reported ih =>
      rcases reported with ⟨now, event⟩
      intro slice member
      rw [Scheduler.repliedSlices_append, Scheduler.repliedSlices_singleton] at member
      rcases List.mem_append.mp member with before | last
      · exact ih slice before
      · rcases Scheduler.slice_of_reply (Option.mem_toList.mp last) with
          ⟨task, slice_eq⟩ | ⟨tier, entry, waits, slice_eq⟩
        · rw [slice_eq]
          exact grantedSlice_pos { execution with history := earlier } plentiful task
        · rw [slice_eq]
          exact entry_slice_pos { execution with history := earlier } plentiful tier entry waits

end Positive

theorem sleeps_initial (task : TaskId) : execution.initial.Sleeps task := by
  refine ⟨.fresh execution.config, ?_, rfl⟩
  have room : ¬execution.initial.roster.capacity ≤ execution.initial.roster.count := by
    rw [execution.initial_eq]
    exact Nat.not_le.mpr (Nat.pos_of_ne_zero execution.accepted.capacity_ne_zero)
  rw [Scheduler.observed?, execution.profile?_initial task]
  dsimp only
  rw [if_neg room, Scheduler.freshProfile, execution.initial_eq]
  rfl

/-- A new task runs for no time at all, several times. -/
def instantRuns (execution : Execution) (count : Nat) : Execution :=
  { execution with history := Scheduler.cycles 0 1 0 0 count }

/-- If such runs are short, ten of them raise the task by two tiers or more. -/
theorem risen_after_instantRuns (attainable : 0 < execution.config.shortRunThreshold) {count : Nat}
    (enough : 10 ≤ count) :
    ∃ profile, (execution.instantRuns count).scheduler.observed? 1 = some profile ∧
      90 ≤ profile.score ∧ profile.tier ≤ .critical := by
  have config_eq : execution.initial.config = execution.config := by
    rw [execution.initial_eq]
    rfl
  rcases (execution.sleeps_initial 1).after_cycles 0 0 0 count with
    ⟨⟨profile, observed, _⟩, spares, lengths_eq⟩
  refine ⟨profile, observed, ?_⟩
  have known_eq : ((execution.instantRuns count).scheduler.view 1).known execution.config =
      profile := by
    apply TaskView.Observes.known_eq
    have same : (execution.instantRuns count).scheduler.config = execution.config :=
      (execution.instantRuns count).config_eq
    rw [← same]
    exact Scheduler.observed?_eq_some observed
  have unseen : (execution.initial.view 1).known execution.config = .fresh execution.config := by
    rw [TaskView.known, Scheduler.view, execution.profile?_initial 1, Option.getD_none]
  have rated : (Profile.fresh execution.config).RatedBy execution.config profile
      (List.replicate count 0) := by
    have byRuns := Scheduler.ratedBy_after spares
    rw [lengths_eq, config_eq, unseen] at byRuns
    exact known_eq ▸ byRuns
  have score_le := Rating.le_score_of_short (Profile.fresh execution.config).rating count attainable
  rw [← rated.rating_eq] at score_le
  have risen : (90 : Score) ≤ profile.score := by
    change min (50 + 4 * count) 100 ≤ profile.score.toNat at score_le
    rw [UInt8.le_iff_toNat_le]
    simp only [UInt8.reduceToNat]
    omega
  have ran : List.replicate count (0 : Nanos) ≠ [] := by
    rw [Ne, List.replicate_eq_nil_iff]
    omega
  refine ⟨risen, ?_⟩
  rw [rated.tier_eq, if_neg ran]
  exact (Score.tier_le_iff (by decide)).mpr risen

/-- Some task can rise if and only if there are short runs. -/
theorem risen_iff :
    (∃ history task profile, (execution.initial.after history).profile? task = some profile ∧
        Score.neutral < profile.score) ↔
      0 < execution.config.shortRunThreshold := by
  constructor
  · rintro ⟨history, task, profile, tracked, risen⟩
    rw [UInt64.pos_iff_ne_zero]
    intro unattainable
    have subdued : profile.Subdued := subdued { execution with history } unattainable task profile
      tracked
    exact absurd risen (UInt8.not_lt.mpr subdued.score_le)
  · intro attainable
    rcases execution.risen_after_instantRuns attainable (Nat.le_refl 10) with
      ⟨profile, observed, risen, _⟩
    have above : Score.neutral < profile.score := UInt8.lt_of_lt_of_le (by decide) risen
    refine ⟨(execution.instantRuns 10).history, 1, profile, ?_, above⟩
    rcases Scheduler.observed?_eq_some observed with tracked | ⟨_, rfl⟩
    · exact tracked
    · exact absurd above (UInt8.lt_irrefl _)

/-- With the smallest quantum, a task that has risen is granted nothing when it is woken. -/
theorem zero_mem_repliedSlices (quantum_eq : execution.config.quantum.toNat = 1)
    (share_eq : execution.config.sparseShare.toNat = 1000) {count : Nat} (enough : 10 ≤ count) :
    0 ∈ execution.initial.repliedSlices
      ((execution.instantRuns count).history ++ [(0, .wake 1 none ⟨false, false⟩)]) := by
  have attainable : 0 < execution.config.shortRunThreshold := by
    rw [execution.accepted.shortRunThreshold_pos_iff, quantum_eq, share_eq]
  rcases execution.risen_after_instantRuns attainable enough with
    ⟨profile, observed, _, high⟩
  have slice_eq : profile.slice = 0 := by
    rcases ((execution.instantRuns count).wellFormed_of_observed 1 observed).slice_eq with
      slice_eq | ⟨_, interactive, _⟩
    · have share_lt := Tier.toNat_quantumShare_lt_of_high high
      rw [slice_eq]
      apply UInt64.toNat_inj.mp
      rw [(execution.instantRuns count).accepted.toNat_slice]
      change execution.config.quantum.toNat * _ / 1000 = 0
      rw [quantum_eq, Nat.one_mul]
      exact Nat.div_eq_of_lt share_lt
    · rw [interactive] at high
      contradiction
  rw [Scheduler.repliedSlices_append, Scheduler.repliedSlices_singleton]
  apply List.mem_append_right
  change 0 ∈ (some ((execution.instantRuns count).scheduler.wake 0 1 none
    ⟨false, false⟩).reply.slice).toList
  rw [Scheduler.slice_wake, Scheduler.grantedSlice, observed, Option.map_some, Option.getD_some,
    slice_eq]
  exact List.mem_singleton_self 0

/-- What the limits for accepted configurations guarantee about timing, and what they do not. All slices
are positive from the second smallest quantum on and different from the tenth on. Runs are short, and
tasks can rise, only if the threshold comes to a nanosecond. A slice of nothing is granted only with the
smallest quantum and the greatest threshold together, and with them it can happen. -/
theorem small_quanta :
    ((∀ tier : Tier, 0 < tier.slice execution.config.quantum) ↔
      2 ≤ execution.config.quantum.toNat) ∧
    ((∀ left right : Tier, left < right →
        left.slice execution.config.quantum < right.slice execution.config.quantum) ↔
      10 ≤ execution.config.quantum.toNat) ∧
    (0 < execution.config.shortRunThreshold ↔
      1000 ≤ execution.config.quantum.toNat * execution.config.sparseShare.toNat) ∧
    ((∃ history task profile, (execution.initial.after history).profile? task = some profile ∧
        Score.neutral < profile.score) ↔
      1000 ≤ execution.config.quantum.toNat * execution.config.sparseShare.toNat) ∧
    ((∀ history, ∀ slice ∈ execution.initial.repliedSlices history, 0 < slice) ↔
      ¬(execution.config.quantum.toNat = 1 ∧ execution.config.sparseShare.toNat = 1000)) := by
  have threshold_iff := execution.accepted.shortRunThreshold_pos_iff
  refine ⟨execution.accepted.slices_pos_iff, execution.accepted.slices_lt_iff, threshold_iff,
    execution.risen_iff.trans threshold_iff, ?_⟩
  constructor
  · rintro positive ⟨quantum_eq, share_eq⟩
    have nothing := execution.zero_mem_repliedSlices quantum_eq share_eq (Nat.le_refl 10)
    exact absurd (positive _ 0 nothing) (UInt64.lt_irrefl 0)
  · intro plentiful history
    exact execution.repliedSlices_pos plentiful history

/-- An accepted configuration whose highest tiers have no slice, and a task that is granted none when it
is woken after ten short runs. With the default threshold instead, not even a run of no length would be
short. -/
theorem grants_nothing :
    let config : Config := { units := 1, quantum := 1, sparseShare := 1000 }
    config.Accepted ∧ Tier.criticalLatency.slice config.quantum = 0 ∧
      Tier.gaming.slice config.quantum = Tier.background.slice config.quantum ∧
      { config with sparseShare := 50 }.Accepted ∧
      { config with sparseShare := 50 }.shortRunThreshold = 0 ∧
      (Scheduler.initial config (.flat 1)).repliedSlices
        (Scheduler.cycles 0 1 1000 1000 10 ++ [(1000, .wake 1 none ⟨false, false⟩)]) = [0] := by
  decide +kernel

end Execution

end TierSched
