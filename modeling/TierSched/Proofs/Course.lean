import TierSched.Proofs.Execution

/-!
# The course of a history

Some statements about a history are about every event of it together with the state in which the event
finds the scheduler. `Scheduler.Along` says that all events are permitted in this sense. What was
permitted can be split wherever the history is split, so invariants along a history are extended by one
event at a time.

Others are about what has lasted since some event: `Scheduler.Since` says that the history has an event
that began something, and that all later events let it continue. A property of states that begins and
continues in this way holds at the end of a history exactly if it was begun and has lasted since.

The configuration and the topology are part of the state of a scheduler, and no event changes them: an
execution is governed by what it was created with, from its beginning to its end.
-/

namespace TierSched

namespace Scheduler

/-- Every event of a history is permitted in the state in which it finds the scheduler. -/
def Along (permitted : Scheduler → Event → Prop) (scheduler : Scheduler) :
    List (Nanos × Event) → Prop
  | [] => True
  | (now, event) :: later =>
    permitted scheduler event ∧ (scheduler.handle now event).scheduler.Along permitted later

section Along

variable {permitted : Scheduler → Event → Prop}

instance decidableAlong [∀ scheduler event, Decidable (permitted scheduler event)]
    (scheduler : Scheduler) (history : List (Nanos × Event)) :
    Decidable (scheduler.Along permitted history) :=
  match history with
  | [] => isTrue trivial
  | (now, event) :: later =>
    have := decidableAlong (scheduler.handle now event).scheduler later
    inferInstanceAs (Decidable (_ ∧ _))

theorem along_append {scheduler : Scheduler} {earlier later : List (Nanos × Event)} :
    scheduler.Along permitted (earlier ++ later) ↔
      scheduler.Along permitted earlier ∧ (scheduler.after earlier).Along permitted later := by
  induction earlier generalizing scheduler with
  | nil => exact (and_iff_right trivial).symm
  | cons reported others ih =>
      change _ ∧ Along permitted _ (others ++ later) ↔ _
      rw [ih, ← and_assoc]
      exact Iff.rfl

theorem along_concat {scheduler : Scheduler} {history : List (Nanos × Event)} {now : Nanos}
    {event : Event} :
    scheduler.Along permitted (history ++ [(now, event)]) ↔
      scheduler.Along permitted history ∧ permitted (scheduler.after history) event := by
  rw [along_append]
  exact and_congr_right fun _ => and_iff_left trivial

theorem along_of_forall (always : ∀ scheduler event, permitted scheduler event)
    (scheduler : Scheduler) (history : List (Nanos × Event)) :
    scheduler.Along permitted history := by
  induction history generalizing scheduler with
  | nil => trivial
  | cons reported later ih => exact ⟨always _ _, ih _⟩

theorem Along.imp {allowed : Scheduler → Event → Prop}
    (weaker : ∀ scheduler event, permitted scheduler event → allowed scheduler event)
    {scheduler : Scheduler} {history : List (Nanos × Event)}
    (along : scheduler.Along permitted history) : scheduler.Along allowed history := by
  induction history generalizing scheduler with
  | nil => trivial
  | cons reported later ih => exact ⟨weaker _ _ along.1, ih along.2⟩

theorem along_forall {Index : Type} {permitted : Index → Scheduler → Event → Prop}
    {scheduler : Scheduler} {history : List (Nanos × Event)}
    (along : ∀ index, scheduler.Along (permitted index) history) :
    scheduler.Along (fun scheduler event => ∀ index, permitted index scheduler event) history := by
  induction history generalizing scheduler with
  | nil => trivial
  | cons reported later ih =>
      exact ⟨fun index => (along index).1, ih fun index => (along index).2⟩

end Along

/-- Something began with an event of the history, and every later event lets it continue. -/
def Since (begins : Scheduler → Nanos → Event → Prop) (continues : Scheduler → Event → Prop)
    (initial : Scheduler) (history : List (Nanos × Event)) : Prop :=
  ∃ earlier now event later, history = earlier ++ (now, event) :: later ∧
    begins (initial.after earlier) now event ∧
      ((initial.after earlier).handle now event).scheduler.Along continues later

section Since

variable {begins : Scheduler → Nanos → Event → Prop} {continues : Scheduler → Event → Prop}
  {initial : Scheduler}

theorem not_since_nil : ¬initial.Since begins continues [] := by
  rintro ⟨earlier, now, event, later, split, _⟩
  simp at split

/-- One more event begins something, or lets continue what began before. -/
theorem since_concat {history : List (Nanos × Event)} {now : Nanos} {event : Event} :
    initial.Since begins continues (history ++ [(now, event)]) ↔
      begins (initial.after history) now event ∨
        initial.Since begins continues history ∧ continues (initial.after history) event := by
  constructor
  · rintro ⟨earlier, begun, beginning, later, split, begin, along⟩
    -- the event that began it is the last one, or it came before the last one
    rcases List.eq_nil_or_concat later with rfl | ⟨others, last, rfl⟩
    · rcases List.append_inj' split rfl with ⟨rfl, last_eq⟩
      cases last_eq
      exact Or.inl begin
    · rw [List.concat_eq_append, ← List.cons_append, ← List.append_assoc] at split
      rcases List.append_inj' split rfl with ⟨rfl, last_eq⟩
      cases last_eq
      rw [List.concat_eq_append, along_concat] at along
      rw [after_append]
      exact Or.inr ⟨⟨earlier, begun, beginning, others, rfl, begin, along.1⟩, along.2⟩
  · rintro (begin | ⟨⟨earlier, begun, beginning, later, rfl, begin, along⟩, last⟩)
    · exact ⟨history, now, event, [], rfl, begin, trivial⟩
    · rw [after_append] at last
      refine ⟨earlier, begun, beginning, later ++ [(now, event)], ?_, begin, ?_⟩
      · rw [List.append_assoc, List.cons_append]
      · exact along_concat.mpr ⟨along, last⟩

/-- What can only begin and continue with an event holds exactly if it has lasted since it began. -/
theorem holds_iff_since {motive : Scheduler → Prop} (never : ¬motive initial)
    (step : ∀ scheduler now event, motive (scheduler.handle now event).scheduler ↔
      begins scheduler now event ∨ motive scheduler ∧ continues scheduler event)
    (history : List (Nanos × Event)) :
    motive (initial.after history) ↔ initial.Since begins continues history := by
  apply after_induction (motive := fun history scheduler =>
    motive scheduler ↔ initial.Since begins continues history)
  · exact iff_of_false never not_since_nil
  · intro earlier now event ih
    rw [step, since_concat, ih]

end Since

section Setup

/-- The configuration and the topology. -/
def setup (scheduler : Scheduler) : Config × Topology :=
  (scheduler.config, scheduler.topology)

variable (scheduler : Scheduler) (now : Nanos) (task : TaskId)

theorem setup_observe {Report : Type} (hint : Nat) (change : Profile → Report × Profile)
    (untracked : Report) :
    (scheduler.observe task hint change untracked).scheduler.setup = scheduler.setup := by
  simp only [observe]
  split <;> rfl

theorem setup_kickVictim (tier : Tier) (hint : Nat) :
    (scheduler.kickVictim tier now hint).scheduler.setup = scheduler.setup := by
  simp only [kickVictim]
  split <;> rfl

theorem setup_place (previous : Option Nat) (flags : WakeFlags) (tier : Tier) (slice : Nanos) :
    (scheduler.place now task previous flags tier slice).scheduler.setup = scheduler.setup := by
  simp only [place]
  split
  · rfl
  · simp only [Outcome.scheduler_andThen]
    have search : (if flags.sync then { reply := none, scheduler }
        else scheduler.kickVictim tier now (previous.getD 0)).scheduler.setup =
          scheduler.setup := by
      split
      · rfl
      · exact scheduler.setup_kickVictim now tier (previous.getD 0)
    split
    · exact search
    · exact search

theorem setup_settleWait (unit : Nat) (wait : Profile.Wait) :
    (scheduler.settleWait unit task wait).scheduler.setup = scheduler.setup := by
  simp only [settleWait]
  split <;> rfl

theorem setup_reportRunning (unit : Nat) (tier : Tier) :
    (scheduler.reportRunning unit tier).setup = scheduler.setup := rfl

/-- No event changes the configuration or the topology. -/
theorem setup_handle (event : Event) :
    (scheduler.handle now event).scheduler.setup = scheduler.setup := by
  cases event with
  | wake task previous flags =>
      simp only [handle, Outcome.map, wake, Outcome.scheduler_andThen, setup_place,
        setup_observe]
  | enqueue task flags =>
      simp only [handle, Outcome.map, enqueue, Outcome.scheduler_andThen]
      split
      · exact scheduler.setup_observe task task _ _
      · split
        · simp only [Outcome.scheduler_andThen, setup_kickVictim]
          exact scheduler.setup_observe task task _ _
        · exact scheduler.setup_observe task task _ _
  | dispatch unit =>
      simp only [handle, Outcome.map, dispatch]
      split <;> rfl
  | start unit task =>
      have kept := scheduler.setup_observe task unit
        (fun profile => profile.start scheduler.config.waitBudget now) untrackedStart
      simp only [handle, Outcome.map, start, Outcome.scheduler_andThen, setup_reportRunning]
      split
      · split
        · exact kept
        · exact kept
      · rw [setup_settleWait]
        split
        · exact kept
        · exact kept
  | stop unit task requeue =>
      simp only [handle, Outcome.map, stop]
      split <;> rfl
  | tick unit task =>
      simp only [handle, Outcome.map, tick]
      split <;> rfl
  | changeIdle unit idle =>
      simp only [handle, Outcome.map, changeIdle]
      split <;> rfl
  | exit task =>
      simp only [handle, Outcome.map, exit, dropEntries]
      split <;> rfl

theorem config_observe {Report : Type} (hint : Nat) (change : Profile → Report × Profile)
    (untracked : Report) :
    (scheduler.observe task hint change untracked).scheduler.config = scheduler.config :=
  congrArg Prod.fst (scheduler.setup_observe task hint change untracked)

theorem topology_observe {Report : Type} (hint : Nat) (change : Profile → Report × Profile)
    (untracked : Report) :
    (scheduler.observe task hint change untracked).scheduler.topology = scheduler.topology :=
  congrArg Prod.snd (scheduler.setup_observe task hint change untracked)

theorem config_handle (event : Event) :
    (scheduler.handle now event).scheduler.config = scheduler.config :=
  congrArg Prod.fst (scheduler.setup_handle now event)

theorem topology_handle (event : Event) :
    (scheduler.handle now event).scheduler.topology = scheduler.topology :=
  congrArg Prod.snd (scheduler.setup_handle now event)

end Setup

/-- A task is stopped only while it runs, or while it is not tracked. -/
def StopsOnlyRunning (task : TaskId) (scheduler : Scheduler) : Event → Prop
  | .stop _ stopped _ =>
    stopped = task → ∀ profile ∈ scheduler.profile? task, profile.phase = .running
  | _ => True

instance (task : TaskId) (scheduler : Scheduler) (event : Event) :
    Decidable (scheduler.StopsOnlyRunning task event) := by
  cases event <;> unfold StopsOnlyRunning <;> infer_instance

end Scheduler

namespace Execution

theorem config_eq (execution : Execution) : execution.scheduler.config = execution.config := by
  apply execution.induction (motive := fun _ scheduler => scheduler.config = execution.config)
  · rfl
  · intro _ scheduler now event same
    rw [Scheduler.config_handle, same]

theorem topology_eq (execution : Execution) :
    execution.scheduler.topology = execution.topology := by
  apply execution.induction (motive := fun _ scheduler =>
    scheduler.topology = execution.topology)
  · rfl
  · intro _ scheduler now event same
    rw [Scheduler.topology_handle, same]

theorem units_topology (execution : Execution) :
    execution.topology.units = execution.config.units :=
  (Scheduler.create_eq_ok_iff.mp execution.created).2.1

end Execution

end TierSched
