import TierSched.Proofs.TaskStep

/-!
# Who owns an entry

A task that waits is recorded in its profile by `waitsIn` and by the generation of its latest entry.
Nothing else is recorded about the queues: what a start or an exit drops, and what a search discards,
is decided from these two fields. This file shows that they can be relied on in every execution,
whatever the host reports.

`Profile.Backed` is the part that holds without any restriction: if a queued task waits in a lane,
the last of its entries there is the current one. `TaskView.Filed` is the part that rests on the
generations of a task being ordered, as long as they have not started again from one: there are no
entries of earlier enqueues except in the lane in which the task waits, in the order of their
generations. Both are preserved by each step of `TaskView.Step`, and `TaskView.Ownership` puts them
together.
-/

namespace TierSched

/-- The last entry of a waiting task is the one that was issued to its profile. -/
structure Profile.Backed (profile : Profile) (waiting : Waiting) : Prop where
  tier_eq : ∀ tier, profile.waitsIn = some tier → tier = profile.tier
  issued : profile.waitsIn ≠ none → profile.generation ≠ Generation.untracked
  running : profile.phase = .running → profile.waitsIn = none
  current : ∀ tier, profile.phase = .queued → profile.waitsIn = some tier →
    ∃ older entry, waiting tier = older ++ [entry] ∧ entry.generation = profile.generation ∧
      entry.slice = profile.slice

namespace Profile.Backed

theorem of_waitsIn_eq_none {profile : Profile} {waiting : Waiting}
    (idle : profile.waitsIn = none) : profile.Backed waiting := by
  refine ⟨?_, ?_, ?_, ?_⟩
  · intro tier waits
    rw [idle] at waits
    contradiction
  · intro waits
    exact absurd idle waits
  · intro _
    exact idle
  · intro tier _ waits
    rw [idle] at waits
    contradiction

/-- A profile stays backed when the task neither starts nor becomes queued and its tier does not
change. -/
theorem congr {before after : Profile} {waiting : Waiting} (backed : before.Backed waiting)
    (tier_eq : after.tier = before.tier) (generation_eq : after.generation = before.generation)
    (waitsIn_eq : after.waitsIn = before.waitsIn)
    (running : after.phase = .running → before.phase = .running)
    (queued : after.phase = .queued → before.phase = .queued ∧ after.slice = before.slice) :
    after.Backed waiting := by
  refine ⟨?_, ?_, ?_, ?_⟩
  · rw [tier_eq, waitsIn_eq]
    exact backed.tier_eq
  · rw [generation_eq, waitsIn_eq]
    exact backed.issued
  · intro runs
    rw [waitsIn_eq]
    exact backed.running (running runs)
  · intro tier waits
    rcases queued waits with ⟨wasQueued, slice_eq⟩
    rw [waitsIn_eq, generation_eq, slice_eq]
    exact backed.current tier wasQueued

theorem enqueue {profile : Profile} (accepted : profile.phase ≠ .queued) (now : Nanos)
    (task : TaskId) (waiting : Waiting) :
    (profile.enqueue now).2.Backed
      (waiting.push profile.tier ⟨task, profile.slice, profile.generation.next⟩) := by
  rw [enqueue_of_not_queued accepted]
  refine ⟨?_, ?_, ?_, ?_⟩
  · intro tier waits
    exact (Option.some.inj waits).symm
  · intro _
    exact profile.generation.next_ne_untracked
  · intro impossible
    contradiction
  · intro tier _ waits
    rw [← Option.some.inj waits]
    refine ⟨waiting profile.tier, ⟨task, profile.slice, profile.generation.next⟩, ?_, rfl, rfl⟩
    simp [Waiting.push]

theorem stop {profile : Profile} {waiting : Waiting} (backed : profile.Backed waiting)
    (config : Config) (now : Nanos) (requeue : Bool) :
    (profile.stop config now requeue).2.Backed waiting := by
  rcases profile.stop_frame config now requeue with
    ⟨notRunning, notQueued, waitsIn_eq, generation_eq⟩
  by_cases running : profile.phase = .running
  · apply of_waitsIn_eq_none
    rw [waitsIn_eq]
    exact backed.running running
  · refine backed.congr ?_ generation_eq waitsIn_eq ?_ ?_
    · rw [stop_of_not_running running]
      rfl
    · intro runs
      exact absurd runs notRunning
    · intro queued
      exact absurd queued notQueued

/-- Losing stale entries from the fronts does not take the current entry away. -/
theorem of_surrenders {view : TaskView} {profile : Profile} {left : Waiting}
    (tracked : view.profile? = some profile) (backed : profile.Backed view.waiting)
    (split : view.Surrenders (fun _ => []) left) : profile.Backed left := by
  refine ⟨backed.tier_eq, backed.issued, backed.running, ?_⟩
  intro tier queued waits
  rcases backed.current tier queued waits with ⟨older, entry, waiting_eq, generation_eq, slice_eq⟩
  rcases split tier with ⟨discarded, allStale, split⟩
  have live : view.Live entry := by
    simp only [TaskView.Live, tracked]
    exact ⟨queued, by simp [waits], generation_eq.symm⟩
  rw [List.append_nil, waiting_eq] at split
  rcases List.eq_nil_or_concat (left tier) with empty | ⟨others, last, left_eq⟩
  · rw [empty, List.append_nil] at split
    have discardedMem : entry ∈ discarded := by simp [← split]
    exact absurd live (allStale entry discardedMem)
  · rw [List.concat_eq_append] at left_eq
    rw [left_eq, ← List.append_assoc] at split
    have last_eq : entry = last := by
      have lasts := congrArg List.getLast? split
      simpa using lasts
    exact ⟨others, entry, by rw [left_eq, last_eq], generation_eq, slice_eq⟩

end Profile.Backed

namespace TaskView

variable {config : Config} {now : Nanos} {task : TaskId} {event : Event}

/-- The profile is backed by what waits, if the task is tracked. -/
def Backed (view : TaskView) : Prop :=
  ∀ profile, view.profile? = some profile → profile.Backed view.waiting

theorem Backed.of_observes {view : TaskView} {profile : Profile} (backed : view.Backed)
    (observed : view.Observes config profile) : profile.Backed view.waiting := by
  rcases observed with tracked | ⟨_, fresh⟩
  · exact backed profile tracked
  · apply Profile.Backed.of_waitsIn_eq_none
    rw [fresh]
    rfl

theorem Backed.step {before after : TaskView} (backed : before.Backed)
    (step : Step config now task event before after) : after.Backed := by
  intro found foundEq
  cases step with
  | unaffected untracked => exact backed found foundEq
  | wake profile previous flags kicked observed =>
      rw [← Option.some.inj foundEq]
      refine (backed.of_observes observed).congr rfl rfl rfl ?_ ?_
      · intro impossible
        contradiction
      · intro impossible
        contradiction
  | enqueue profile flags observed accepted =>
      rw [← Option.some.inj foundEq]
      exact Profile.Backed.enqueue accepted now task before.waiting
  | refuse profile flags tracked queued => exact backed found foundEq
  | enqueueUntracked flags slice untracked => contradiction
  | pass unit left split =>
      change before.profile? = some found at foundEq
      exact Profile.Backed.of_surrenders foundEq (backed found foundEq) split
  | handOut unit source entry left live split =>
      rcases Option.map_eq_some_iff.mp foundEq with ⟨profile, _, claimed⟩
      rw [← claimed]
      exact Profile.Backed.of_waitsIn_eq_none rfl
  | start profile unit observed =>
      rw [← Option.some.inj foundEq]
      exact Profile.Backed.of_waitsIn_eq_none (profile.start_frame config.waitBudget now).2.1
  | stop profile unit requeue tracked =>
      rw [← Option.some.inj foundEq]
      exact (backed profile tracked).stop config now requeue
  | tick profile unit tracked =>
      rw [← Option.some.inj foundEq]
      rcases profile.checkCeiling_eq config.runCeiling now with ⟨kicked, after_eq⟩
      rw [after_eq]
      exact (backed profile tracked).congr rfl rfl rfl id fun queued => ⟨queued, rfl⟩
  | exit => contradiction

/-- The generation of the latest entry, zero if the task is not tracked. -/
def latest (view : TaskView) : Nat :=
  match view.profile? with
  | some profile => profile.generation.toNat
  | none => 0

theorem latest_of_observes {view : TaskView} {profile : Profile}
    (observed : view.Observes config profile) : profile.generation.toNat = view.latest := by
  rcases observed with tracked | ⟨untracked, fresh⟩
  · simp only [latest, tracked]
  · simp only [latest, untracked, fresh]
    rfl

/-- Only an enqueue issues a generation. -/
theorem latest_step {before after : TaskView} (step : Step config now task event before after) :
    after.latest ≤ before.latest + if event.isEnqueue then 1 else 0 := by
  cases step with
  | unaffected untracked => exact Nat.le_add_right _ _
  | wake profile previous flags kicked observed =>
      rw [← latest_of_observes observed]
      exact Nat.le_add_right _ _
  | enqueue profile flags observed accepted =>
      rw [← latest_of_observes observed, Profile.enqueue_of_not_queued accepted]
      exact profile.generation.toNat_next_le
  | refuse profile flags tracked queued => exact Nat.le_add_right _ _
  | enqueueUntracked flags slice untracked => exact Nat.zero_le _
  | pass unit left split => exact Nat.le_add_right _ _
  | handOut unit source entry left live split =>
      cases tracked : before.profile? with
      | none => simp [latest]
      | some profile => simp [latest, tracked, Profile.claimed]
  | start profile unit observed =>
      rw [← latest_of_observes observed]
      have generation_eq := (profile.start_frame config.waitBudget now).2.2
      simp [latest, generation_eq]
  | stop profile unit requeue tracked =>
      have generation_eq := (profile.stop_frame config now requeue).2.2.2
      simp [latest, tracked, generation_eq]
  | tick profile unit tracked =>
      rcases profile.checkCeiling_eq config.runCeiling now with ⟨kicked, after_eq⟩
      simp [latest, tracked, after_eq]
  | exit => exact Nat.zero_le _

/-- The entries that the task was given while it is tracked are where its profile says, in the order
in which they were issued. -/
structure Filed (view : TaskView) : Prop where
  filed : ∀ tier, ∀ entry ∈ view.waiting tier, entry.generation ≠ Generation.untracked →
    ∃ profile, view.profile? = some profile ∧ profile.waitsIn = some tier ∧
      entry.generation ≤ profile.generation
  increasing : ∀ tier, (view.waiting tier).Pairwise fun earlier later =>
    later.generation ≠ Generation.untracked → earlier.generation < later.generation
  untracked : ∀ tier, ∀ entry ∈ view.waiting tier, entry.generation = Generation.untracked →
    tier = .interactive

namespace Filed

/-- A task that waits nowhere has left no entries that it was given while it is tracked. -/
theorem eq_untracked {view : TaskView} (filed : view.Filed)
    (idle : view.profile?.bind Profile.waitsIn = none) {tier : Tier} {entry : Entry}
    (member : entry ∈ view.waiting tier) : entry.generation = Generation.untracked := by
  by_contra issued
  rcases filed.filed tier entry member issued with ⟨profile, tracked, waits, _⟩
  rw [tracked, Option.bind_some, waits] at idle
  contradiction

/-- Only the profile changed, and not the fields that tell where the task waits. -/
theorem of_profile {view : TaskView} (filed : view.Filed) {before after : Profile}
    (tracked : view.profile? = some before) (waitsIn_eq : after.waitsIn = before.waitsIn)
    (generation_eq : after.generation = before.generation) :
    (TaskView.mk (some after) view.waiting).Filed := by
  refine ⟨?_, filed.increasing, filed.untracked⟩
  intro tier entry member issued
  rcases filed.filed tier entry member issued with ⟨profile, profile_eq, waits, notNewer⟩
  rw [tracked] at profile_eq
  rw [← Option.some.inj profile_eq, ← waitsIn_eq] at waits
  rw [← Option.some.inj profile_eq, ← generation_eq] at notNewer
  exact ⟨after, rfl, waits, notNewer⟩

theorem of_observes {view : TaskView} (filed : view.Filed) {profile : Profile}
    (observed : view.Observes config profile) :
    (TaskView.mk (some profile) view.waiting).Filed := by
  rcases observed with tracked | ⟨untracked, fresh⟩
  · exact filed.of_profile tracked rfl rfl
  · refine ⟨?_, filed.increasing, filed.untracked⟩
    intro tier entry member issued
    have idle : view.profile?.bind Profile.waitsIn = none := by
      rw [untracked]
      rfl
    exact absurd (filed.eq_untracked idle member) issued

/-- What is left of the lanes stays filed if the task still waits where entries of it are left. -/
theorem of_sublist {view : TaskView} (filed : view.Filed) {profile? : Option Profile}
    {left : Waiting} (sublist : ∀ tier, List.Sublist (left tier) (view.waiting tier))
    (kept : ∀ tier, ∀ entry ∈ left tier, entry.generation ≠ Generation.untracked →
      ∃ profile, profile? = some profile ∧ profile.waitsIn = some tier ∧
        entry.generation ≤ profile.generation) :
    (TaskView.mk profile? left).Filed := by
  refine ⟨kept, ?_, ?_⟩
  · intro tier
    exact (filed.increasing tier).sublist (sublist tier)
  · intro tier entry member
    exact filed.untracked tier entry ((sublist tier).subset member)

theorem shrink {view : TaskView} (filed : view.Filed) {left : Waiting}
    (sublist : ∀ tier, List.Sublist (left tier) (view.waiting tier)) :
    (TaskView.mk view.profile? left).Filed := by
  refine filed.of_sublist sublist ?_
  intro tier entry member
  exact filed.filed tier entry ((sublist tier).subset member)

theorem enqueue {profile : Profile} {waiting : Waiting}
    (filed : (TaskView.mk (some profile) waiting).Filed) (backed : profile.Backed waiting)
    (accepted : profile.phase ≠ .queued) (few : profile.generation.toNat < UInt32.size - 1) :
    (TaskView.mk (some (profile.enqueue now).2)
      (waiting.push profile.tier ⟨task, profile.slice, profile.generation.next⟩)).Filed := by
  have newer := profile.generation.lt_next few
  -- earlier entries wait in the lane that is pushed to, with generations that were issued before
  have earlier : ∀ tier, ∀ entry ∈ waiting tier, entry.generation ≠ Generation.untracked →
      tier = profile.tier ∧ entry.generation ≤ profile.generation := by
    intro tier entry member issued
    rcases filed.filed tier entry member issued with ⟨same, same_eq, waits, notNewer⟩
    rw [← Option.some.inj same_eq] at waits notNewer
    exact ⟨backed.tier_eq tier waits, notNewer⟩
  have older : ∀ tier, ∀ entry ∈ waiting tier,
      entry.generation < profile.generation.next := by
    intro tier entry member
    by_cases issued : entry.generation = Generation.untracked
    · rw [issued]
      exact profile.generation.untracked_lt_next
    · exact UInt32.lt_of_le_of_lt (earlier tier entry member issued).2 newer
  rw [Profile.enqueue_of_not_queued accepted]
  refine ⟨?_, ?_, ?_⟩
  · intro tier entry member issued
    refine ⟨_, rfl, ?_⟩
    rcases Waiting.mem_push.mp member with old | ⟨same, rfl⟩
    · rw [(earlier tier entry old issued).1]
      exact ⟨rfl, UInt32.le_of_lt (older tier entry old)⟩
    · exact ⟨congrArg some same, UInt32.le_refl _⟩
  · refine Waiting.pairwise_push filed.increasing ?_
    intro entry old _
    exact older profile.tier entry old
  · intro tier entry member zero
    rcases Waiting.mem_push.mp member with old | ⟨_, rfl⟩
    · exact filed.untracked tier entry old zero
    · exact absurd zero profile.generation.next_ne_untracked

theorem of_surrenders {view : TaskView} (filed : view.Filed) {taken left : Waiting}
    (split : view.Surrenders taken left) : (TaskView.mk view.profile? left).Filed := by
  apply filed.shrink
  intro tier
  rcases split tier with ⟨discarded, _, split⟩
  rw [split]
  exact List.sublist_append_right _ _

/-- Nothing that the task was given while it is tracked waits behind its current entry. -/
theorem handOut {view : TaskView} (filed : view.Filed) (backed : view.Backed) {source : Tier}
    {entry : Entry} {left : Waiting} (live : view.Live entry)
    (split : view.Surrenders (fun tier => if source = tier then [entry] else []) left) :
    (TaskView.mk (view.profile?.map Profile.claimed) left).Filed := by
  have remains := filed.of_surrenders split
  cases tracked : view.profile? with
  | none =>
      rw [tracked] at remains
      exact remains
  | some profile =>
      rw [tracked] at remains
      have owns : profile.Owns entry.generation := by
        simpa only [Live, tracked] using live
      rcases owns with ⟨_, waits, generation_eq⟩
      have issued : entry.generation ≠ Generation.untracked := by
        rw [← generation_eq]
        exact (backed profile tracked).issued waits
      have entryMem : entry ∈ view.waiting source := by
        rcases split source with ⟨discarded, _, split⟩
        rw [split]
        simp
      rcases filed.filed source entry entryMem issued with ⟨same, same_eq, waitsIn_eq, _⟩
      rw [tracked] at same_eq
      rw [← Option.some.inj same_eq] at waitsIn_eq
      refine ⟨?_, remains.increasing, remains.untracked⟩
      intro tier other member otherIssued
      rcases remains.filed tier other member otherIssued with ⟨same, same_eq, otherWaits, notNewer⟩
      rw [← Option.some.inj same_eq, waitsIn_eq] at otherWaits
      rw [← Option.some.inj same_eq, generation_eq] at notNewer
      have behind : entry.generation < other.generation := by
        have ordered := filed.increasing source
        rcases split source with ⟨discarded, _, split⟩
        rw [split] at ordered
        simp only [if_true, List.append_assoc] at ordered
        have rest := (List.pairwise_append.mp ordered).2.1
        rw [← Option.some.inj otherWaits] at member
        exact List.rel_of_pairwise_cons rest member otherIssued
      exact absurd (UInt32.lt_of_lt_of_le behind notNewer) (UInt32.lt_irrefl _)

/-- When the lane in which the task waits is cleared, no entries are left that it was given while it
is tracked. -/
theorem dropFrom {view : TaskView} (filed : view.Filed) (profile? : Option Profile) :
    (TaskView.mk profile?
      (view.waiting.dropFrom (view.profile?.bind Profile.waitsIn))).Filed := by
  refine filed.of_sublist (view.waiting.sublist_dropFrom _) ?_
  intro tier entry member issued
  simp only [Waiting.dropFrom] at member
  split at member
  · simp at member
  · rename_i elsewhere
    rcases filed.filed tier entry member issued with ⟨profile, tracked, waits, _⟩
    rw [tracked, Option.bind_some] at elsewhere
    exact absurd waits elsewhere

theorem step {before after : TaskView} (filed : before.Filed) (backed : before.Backed)
    (step : Step config now task event before after)
    (few : event.isEnqueue → before.latest < UInt32.size - 1) : after.Filed := by
  cases step with
  | unaffected untracked => exact filed
  | wake profile previous flags kicked observed =>
      exact (filed.of_observes observed).of_profile rfl rfl rfl
  | enqueue profile flags observed accepted =>
      refine (filed.of_observes observed).enqueue (backed.of_observes observed) accepted ?_
      rw [latest_of_observes observed]
      exact few rfl
  | refuse profile flags tracked queued => exact filed
  | enqueueUntracked flags slice untracked =>
      have idle : before.profile?.bind Profile.waitsIn = none := by
        rw [untracked]
        rfl
      refine ⟨?_, ?_, ?_⟩
      · intro tier entry member issued
        rcases Waiting.mem_push.mp member with old | ⟨_, rfl⟩
        · exact absurd (filed.eq_untracked idle old) issued
        · contradiction
      · refine Waiting.pairwise_push filed.increasing ?_
        intro entry _ issued
        contradiction
      · intro tier entry member zero
        rcases Waiting.mem_push.mp member with old | ⟨same, _⟩
        · exact filed.untracked tier entry old zero
        · exact same.symm
  | pass unit left split => exact filed.of_surrenders split
  | handOut unit source entry left live split => exact filed.handOut backed live split
  | start profile unit observed => exact (filed.of_observes observed).dropFrom _
  | stop profile unit requeue tracked =>
      rcases profile.stop_frame config now requeue with ⟨_, _, waitsIn_eq, generation_eq⟩
      exact filed.of_profile tracked waitsIn_eq generation_eq
  | tick profile unit tracked =>
      rcases profile.checkCeiling_eq config.runCeiling now with ⟨kicked, after_eq⟩
      rw [after_eq]
      exact filed.of_profile tracked rfl rfl
  | exit => exact (filed.dropFrom none).shrink (Waiting.sublist_dropFrom _ _)

end Filed

/-- What is known about a task after so many enqueues. -/
structure Invariant (enqueues : Nat) (view : TaskView) : Prop where
  backed : view.Backed
  latest_le : view.latest ≤ enqueues
  filed : enqueues < UInt32.size - 1 → view.Filed

theorem Invariant.initial (config : Config) (topology : Topology) (task : TaskId) :
    Invariant 0 ((Scheduler.initial config topology).view task) := by
  rw [Scheduler.view_initial]
  refine ⟨?_, Nat.le_refl 0, fun _ => ⟨?_, ?_, ?_⟩⟩
  · intro profile impossible
    contradiction
  · intro tier entry impossible
    contradiction
  · intro tier
    exact List.Pairwise.nil
  · intro tier entry impossible
    contradiction

theorem Invariant.step {enqueues : Nat} {before after : TaskView}
    (invariant : Invariant enqueues before) (step : Step config now task event before after) :
    Invariant (enqueues + if event.isEnqueue then 1 else 0) after := by
  refine ⟨invariant.backed.step step, ?_, ?_⟩
  · have grown := latest_step step
    have bound := invariant.latest_le
    omega
  · intro few
    have bound := invariant.latest_le
    refine (invariant.filed ?_).step invariant.backed step ?_
    · omega
    · intro enqueue
      rw [if_pos enqueue] at few
      omega

/-- What a profile tells about the entries of its task in the queues. -/
structure Ownership (view : TaskView) : Prop where
  /-- A task that waits does so in the lane of its tier, with an entry that was issued to it. -/
  waits : ∀ profile tier, view.profile? = some profile → profile.waitsIn = some tier →
    tier = profile.tier ∧ 1 ≤ profile.generation
  running : ∀ profile, view.profile? = some profile → profile.phase = .running →
    profile.waitsIn = none
  /-- Entries with a generation are in the lane in which the task waits, and not newer than its
  latest entry. -/
  filed : ∀ tier, ∀ entry ∈ view.waiting tier, entry.generation ≠ Generation.untracked →
    ∃ profile, view.profile? = some profile ∧ profile.waitsIn = some tier ∧
      entry.generation ≤ profile.generation
  increasing : ∀ tier,
    ((view.waiting tier).filter fun entry => entry.generation ≠ Generation.untracked).Pairwise
      fun earlier later => earlier.generation < later.generation
  untracked : ∀ tier, ∀ entry ∈ view.waiting tier, entry.generation = Generation.untracked →
    tier = .interactive
  /-- The entry with which a queued task waits is its last one, and the only one of its generation;
  it carries the slice of the task. -/
  current : ∀ profile tier, view.profile? = some profile → profile.phase = .queued →
    profile.waitsIn = some tier →
    ∃ older entry, view.waiting tier = older ++ [entry] ∧
      entry.generation = profile.generation ∧ entry.slice = profile.slice ∧
        ∀ other ∈ older, other.generation ≠ profile.generation

theorem Invariant.owned {enqueues : Nat} {view : TaskView} (invariant : Invariant enqueues view)
    (few : enqueues < UInt32.size - 1) : view.Ownership := by
  have backed := invariant.backed
  have filed := invariant.filed few
  refine ⟨?_, ?_, filed.filed, ?_, filed.untracked, ?_⟩
  · intro profile tier tracked waits
    refine ⟨(backed profile tracked).tier_eq tier waits, ?_⟩
    have issued := (backed profile tracked).issued (by simp [waits])
    have positive : profile.generation.toNat ≠ 0 := by
      intro zero
      exact issued (UInt32.toNat_inj.mp zero)
    rw [UInt32.le_iff_toNat_le]
    change 1 ≤ profile.generation.toNat
    omega
  · intro profile tracked
    exact (backed profile tracked).running
  · intro tier
    rw [List.pairwise_filter]
    refine (filed.increasing tier).imp ?_
    intro earlier later ordered _ issued
    exact ordered (of_decide_eq_true issued)
  · intro profile tier tracked queued waits
    rcases (backed profile tracked).current tier queued waits with
      ⟨older, entry, waiting_eq, generation_eq, slice_eq⟩
    refine ⟨older, entry, waiting_eq, generation_eq, slice_eq, ?_⟩
    intro other member same
    have ordered := filed.increasing tier
    rw [waiting_eq] at ordered
    have before := (List.pairwise_append.mp ordered).2.2 other member entry (by simp)
    rw [same, generation_eq] at before
    have issued := (backed profile tracked).issued (by simp [waits])
    exact UInt32.lt_irrefl _ (before issued)

end TaskView

namespace Execution

variable (execution : Execution) (task : TaskId)

theorem invariant :
    TaskView.Invariant execution.enqueues (execution.scheduler.view task) := by
  apply execution.induction (motive := fun history scheduler =>
    TaskView.Invariant (enqueueCount history) (scheduler.view task))
  · exact TaskView.Invariant.initial execution.config execution.topology task
  · intro earlier scheduler now event invariant
    rw [enqueueCount_concat]
    exact invariant.step (scheduler.step_of_handle now task event)

/-- As long as the generations have not started again from one, what waits for a task is what its
profile tells. -/
theorem ownership (few : execution.enqueues < UInt32.size - 1) :
    (execution.scheduler.view task).Ownership :=
  (execution.invariant task).owned few

/-- A task that is woken while it waits leaves a stale entry in front of its next one. -/
theorem ownership_of_woken_while_waiting :
    let execution := ofHistory
      [(1000, .enqueue 1 ⟨true, false, false⟩), (2000, .wake 1 none ⟨false, false⟩),
        (3000, .enqueue 1 ⟨true, false, false⟩)]
    execution.enqueues < UInt32.size - 1 ∧
      ((execution.scheduler.view 1).waiting .interactive).map Entry.generation = [1, 2] ∧
        (execution.scheduler.view 1).Ownership := by
  intro execution
  have few : execution.enqueues < UInt32.size - 1 := by decide
  refine ⟨few, ?_, execution.ownership 1 few⟩
  decide +kernel

end Execution

end TierSched
