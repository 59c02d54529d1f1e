import TierSched.Proofs.Correspondence
import TierSched.Proofs.Course

/-!
# Schedulers in lockstep

A `Correspondence` tells how two schedulers may differ: in the switch of the statistics, and in their
profiles, occupancies and statistics, which need not be equal but only related. Two schedulers go in
lockstep at a pair of readings if everything that can happen to a task or a unit is answered in the same
way in both of them and preserves these relations. Then every callback gives the same answer, the same
kicks and the same notices in corresponding schedulers and leaves corresponding schedulers behind, and
so does every history.
-/

namespace TierSched

/-- The outcomes show the same to the host, and the schedulers are related. -/
structure Outcome.Rel {Reply : Type} (related : Scheduler → Scheduler → Prop)
    (first second : Outcome Reply) : Prop where
  reply_eq : first.reply = second.reply
  kicks_eq : first.kicks = second.kicks
  notices_eq : first.notices = second.notices
  schedulers : related first.scheduler second.scheduler

namespace Outcome.Rel

variable {First Second : Type} {related : Scheduler → Scheduler → Prop} {first second : Outcome First}

theorem map (outcomes : first.Rel related second) (form : First → Second) :
    (first.map form).Rel related (second.map form) :=
  ⟨congrArg form outcomes.reply_eq, outcomes.kicks_eq, outcomes.notices_eq, outcomes.schedulers⟩

theorem andThen (outcomes : first.Rel related second)
    {step counterpart : First → Scheduler → Outcome Second}
    (steps : ∀ reply scheduler other, related scheduler other →
      (step reply scheduler).Rel related (counterpart reply other)) :
    (first.andThen step).Rel related (second.andThen counterpart) := by
  have next := steps first.reply first.scheduler second.scheduler outcomes.schedulers
  rw [Outcome.andThen, Outcome.andThen, ← outcomes.reply_eq, ← outcomes.kicks_eq,
    ← outcomes.notices_eq]
  exact ⟨next.reply_eq, congrArg (first.kicks ++ ·) next.kicks_eq,
    congrArg (first.notices ++ ·) next.notices_eq, next.schedulers⟩

end Outcome.Rel

/-- How two schedulers may differ. -/
structure Correspondence where
  switches : Bool → Bool → Prop
  profiles : Profile → Profile → Prop
  occupancies : Occupancy → Occupancy → Prop
  statistics : Statistics → Statistics → Prop
  /-- Tasks with such a profile may be stopped. -/
  stoppable : Profile → Prop

/-- The schedulers correspond to each other and do not differ otherwise. -/
inductive Scheduler.Corresponds (correspondence : Correspondence) (scheduler : Scheduler) :
    Scheduler → Prop where
  | intro (statisticsEnabled : Bool) (roster : Roster) (occupancy : Occupancy)
      (statistics : Statistics)
      (switches : correspondence.switches scheduler.config.statisticsEnabled statisticsEnabled)
      (rosters : scheduler.roster.Rel correspondence.profiles roster)
      (occupancies : correspondence.occupancies scheduler.occupancy occupancy)
      (counted : correspondence.statistics scheduler.statistics statistics) :
      Corresponds correspondence scheduler
        { scheduler with
          config := { scheduler.config with statisticsEnabled }, roster, occupancy, statistics }

namespace Correspondence

variable (correspondence : Correspondence)

/-- What happens to the tasks and units at these readings preserves the correspondence. -/
structure Lockstep (now later : Nanos) : Prop where
  fresh (config : Config) : correspondence.profiles (.fresh config) (.fresh config)
  wake : Profile.InStep correspondence.profiles (fun profile => profile.wake now)
    fun other => other.wake later
  enqueue : Profile.InStep correspondence.profiles (fun profile => profile.enqueue now)
    fun other => other.enqueue later
  mark : Profile.InStep correspondence.profiles
    (fun profile => ((), { profile with kickedOnWake := true }))
    fun other => ((), { other with kickedOnWake := true })
  claimable : Profile.Claimable correspondence.profiles
  start (budget : WaitBudget) :
    Profile.InStep correspondence.profiles (fun profile => profile.start budget now)
      fun other => other.start budget later
  stop (config : Config) (requeue : Bool) ⦃profile other : Profile⦄ :
    correspondence.profiles profile other → correspondence.stoppable profile →
      Profile.Reports correspondence.profiles (profile.stop config now requeue)
        (other.stop config later requeue)
  checkCeiling (ceiling : Tier → Nanos) :
    Profile.InStep correspondence.profiles (fun profile => profile.checkCeiling ceiling now)
      fun other => other.checkCeiling ceiling later
  waitsIn_eq ⦃profile other : Profile⦄ : correspondence.profiles profile other →
    profile.waitsIn = other.waitsIn
  takeIdle (preferences : List UnitSet) ⦃occupancy other : Occupancy⦄ :
    correspondence.occupancies occupancy other →
      (occupancy.takeIdle preferences).1 = (other.takeIdle preferences).1 ∧
        correspondence.occupancies (occupancy.takeIdle preferences).2 (other.takeIdle preferences).2
  chooseVictim (tier : Tier) ⦃occupancy other : Occupancy⦄ :
    correspondence.occupancies occupancy other →
      (occupancy.chooseVictim tier now).1 = (other.chooseVictim tier later).1 ∧
        correspondence.occupancies (occupancy.chooseVictim tier now).2
          (other.chooseVictim tier later).2
  reportRunning (unit : Nat) (tier : Tier) ⦃occupancy other : Occupancy⦄ :
    correspondence.occupancies occupancy other →
      correspondence.occupancies (occupancy.reportRunning unit tier).2
        (other.reportRunning unit tier).2
  reportIdle (unit : Nat) ⦃occupancy other : Occupancy⦄ :
    correspondence.occupancies occupancy other →
      correspondence.occupancies (occupancy.reportIdle unit) (other.reportIdle unit)
  reportBusy (unit : Nat) ⦃occupancy other : Occupancy⦄ :
    correspondence.occupancies occupancy other →
      correspondence.occupancies (occupancy.reportBusy unit) (other.reportBusy unit)
  record (hint : Nat) (occurrence : Occurrence) ⦃statistics other : Statistics⦄ :
    correspondence.statistics statistics other →
      correspondence.statistics (statistics.record hint occurrence) (other.record hint occurrence)

/-- Tasks are stopped only with a profile with which they may be stopped. -/
def Admits (scheduler : Scheduler) : Event → Prop
  | .stop _ task _ => ∀ profile ∈ scheduler.profile? task, correspondence.stoppable profile
  | _ => True

end Correspondence

namespace Scheduler.Corresponds

variable {correspondence : Correspondence} {scheduler other : Scheduler} {now later : Nanos}

section Fields

variable (corresponds : scheduler.Corresponds correspondence other)

include corresponds

theorem quantum_eq : other.config.quantum = scheduler.config.quantum := by
  cases corresponds with
  | intro => rfl

theorem units_eq : other.config.units = scheduler.config.units := by
  cases corresponds with
  | intro => rfl

theorem kickingTier_eq : other.config.kickingTier = scheduler.config.kickingTier := by
  cases corresponds with
  | intro => rfl

theorem waitBudget_eq : other.config.waitBudget = scheduler.config.waitBudget := by
  cases corresponds with
  | intro => rfl

theorem runCeiling_eq : other.config.runCeiling = scheduler.config.runCeiling := by
  cases corresponds with
  | intro => rfl

theorem freshProfile_eq : other.freshProfile = scheduler.freshProfile := by
  cases corresponds with
  | intro => rfl

theorem stop_eq (profile : Profile) (requeue : Bool) :
    profile.stop other.config now requeue = profile.stop scheduler.config now requeue := by
  cases corresponds with
  | intro => rfl

theorem topology_eq : other.topology = scheduler.topology := by
  cases corresponds with
  | intro => rfl

theorem queues_eq : other.queues = scheduler.queues := by
  cases corresponds with
  | intro => rfl

theorem rosters : scheduler.roster.Rel correspondence.profiles other.roster := by
  cases corresponds with
  | intro _ _ _ _ _ rosters => exact rosters

theorem occupancies : correspondence.occupancies scheduler.occupancy other.occupancy := by
  cases corresponds with
  | intro _ _ _ _ _ _ occupancies => exact occupancies

theorem withRoster {roster counterpart : Roster}
    (related : roster.Rel correspondence.profiles counterpart) :
    { scheduler with roster }.Corresponds correspondence { other with roster := counterpart } := by
  cases corresponds with
  | intro _ _ _ _ switches _ occupancies counted =>
      exact .intro _ counterpart _ _ switches related occupancies counted

theorem withOccupancy {occupancy counterpart : Occupancy}
    (related : correspondence.occupancies occupancy counterpart) :
    { scheduler with occupancy }.Corresponds correspondence
      { other with occupancy := counterpart } := by
  cases corresponds with
  | intro _ _ _ _ switches rosters _ counted =>
      exact .intro _ _ counterpart _ switches rosters related counted

theorem withQueues (queues : ReadyQueues) :
    { scheduler with queues }.Corresponds correspondence { other with queues } := by
  cases corresponds with
  | intro _ _ _ _ switches rosters occupancies counted =>
      exact .intro _ _ _ _ switches rosters occupancies counted

theorem dropEntries (tier : Tier) (task : TaskId) :
    (scheduler.dropEntries tier task).Corresponds correspondence (other.dropEntries tier task) := by
  rw [Scheduler.dropEntries, Scheduler.dropEntries, corresponds.queues_eq]
  exact corresponds.withQueues _

theorem quiet {Reply : Type} (reply : Reply) :
    Outcome.Rel (Corresponds correspondence) { reply, scheduler } { reply, scheduler := other } :=
  ⟨rfl, rfl, rfl, corresponds⟩

end Fields

section Callbacks

variable (lockstep : correspondence.Lockstep now later)

include lockstep

theorem count (corresponds : scheduler.Corresponds correspondence other) (hint : Nat)
    (occurrence : Occurrence) :
    (scheduler.count hint occurrence).Corresponds correspondence (other.count hint occurrence) := by
  cases corresponds with
  | intro _ _ _ _ switches rosters occupancies counted =>
      exact .intro _ _ _ _ switches rosters occupancies (lockstep.record hint occurrence counted)

theorem observe {Report : Type} (corresponds : scheduler.Corresponds correspondence other)
    (task : TaskId) (hint : Nat) {change counterpart : Profile → Report × Profile}
    (changes : Profile.InStep correspondence.profiles change counterpart) (untracked : Report) :
    Outcome.Rel (Corresponds correspondence) (scheduler.observe task hint change untracked)
      (other.observe task hint counterpart untracked) := by
  have updated := corresponds.rosters.updateOrInsert task (lockstep.fresh scheduler.config) changes
  rw [Scheduler.observe, Scheduler.observe, corresponds.freshProfile_eq, freshProfile]
  generalize scheduler.roster.updateOrInsert task (.fresh scheduler.config) change = first,
    other.roster.updateOrInsert task (.fresh scheduler.config) counterpart = second at updated
  rcases first with ⟨report, written⟩
  rcases second with ⟨same, found⟩
  rcases updated with ⟨rfl, related⟩
  have stored := corresponds.withRoster related
  cases report with
  | ok report => exact stored.quiet report
  | error fault => exact ⟨rfl, rfl, rfl, stored.count lockstep hint .fallback⟩

theorem kickVictim (corresponds : scheduler.Corresponds correspondence other) (tier : Tier)
    (hint : Nat) :
    Outcome.Rel (Corresponds correspondence) (scheduler.kickVictim tier now hint)
      (other.kickVictim tier later hint) := by
  have chosen := lockstep.chooseVictim tier corresponds.occupancies
  simp only [Scheduler.kickVictim]
  generalize scheduler.occupancy.chooseVictim tier now = first,
    other.occupancy.chooseVictim tier later = second at chosen
  rcases first with ⟨victim, written⟩
  rcases second with ⟨same, counterpart⟩
  rcases chosen with ⟨rfl, related⟩
  have stored := corresponds.withOccupancy related
  cases victim with
  | none => exact stored.quiet none
  | some unit => exact ⟨rfl, rfl, rfl, stored.count lockstep hint .victimKick⟩

theorem markKickedOnWake (corresponds : scheduler.Corresponds correspondence other)
    (task : TaskId) :
    (scheduler.markKickedOnWake task).Corresponds correspondence (other.markKickedOnWake task) :=
  corresponds.withRoster (corresponds.rosters.update task fun _ _ _ profiles =>
    lockstep.mark profiles).2

theorem place (corresponds : scheduler.Corresponds correspondence other) (task : TaskId)
    (previous : Option Nat) (flags : WakeFlags) (tier : Tier) (slice : Nanos) :
    Outcome.Rel (Corresponds correspondence) (scheduler.place now task previous flags tier slice)
      (other.place later task previous flags tier slice) := by
  have search : Outcome.Rel (Corresponds correspondence)
      (if flags.sync then { reply := none, scheduler }
        else scheduler.kickVictim tier now (previous.getD 0))
      (if flags.sync then { reply := none, scheduler := other }
        else other.kickVictim tier later (previous.getD 0)) := by
    split
    · exact corresponds.quiet none
    · exact corresponds.kickVictim lockstep tier (previous.getD 0)
  have taken := lockstep.takeIdle
    (scheduler.topology.preferences (if flags.fork then none else previous) tier)
    corresponds.occupancies
  have preferences_eq :
      other.topology.preferences (if flags.fork then none else previous) tier =
        scheduler.topology.preferences (if flags.fork then none else previous) tier := by
    rw [corresponds.topology_eq]
  rw [Scheduler.place, Scheduler.place, preferences_eq]
  generalize scheduler.occupancy.takeIdle _ = first, other.occupancy.takeIdle _ = second at taken
  rcases first with ⟨unit, written⟩
  rcases second with ⟨same, counterpart⟩
  rcases taken with ⟨rfl, related⟩
  cases unit with
  | some unit =>
      exact ⟨rfl, rfl, rfl,
        (corresponds.withOccupancy related).count lockstep unit (.dispatch tier true)⟩
  | none =>
      refine search.andThen ?_
      intro victim searched counterpart next
      cases victim with
      | some unit =>
          exact (next.markKickedOnWake lockstep task).quiet (⟨unit, false, slice⟩ : Placement)
      | none =>
          rw [next.units_eq]
          exact next.quiet _

theorem wake (corresponds : scheduler.Corresponds correspondence other) (task : TaskId)
    (previous : Option Nat) (flags : WakeFlags) :
    Outcome.Rel (Corresponds correspondence) (scheduler.wake now task previous flags)
      (other.wake later task previous flags) := by
  have observed := corresponds.observe lockstep task (previous.getD 0) lockstep.wake
    (.interactive, scheduler.config.quantum)
  rw [Scheduler.wake, Scheduler.wake, corresponds.quantum_eq]
  refine observed.andThen ?_
  intro reply woken counterpart next
  exact next.place lockstep task previous flags reply.1 reply.2

theorem enqueue (corresponds : scheduler.Corresponds correspondence other) (task : TaskId)
    (flags : EnqueueFlags) :
    Outcome.Rel (Corresponds correspondence) (scheduler.enqueue now task flags)
      (other.enqueue later task flags) := by
  have observed := corresponds.observe lockstep task task lockstep.enqueue
    (some scheduler.untrackedEntry)
  have entry_eq : other.untrackedEntry = scheduler.untrackedEntry := by
    rw [untrackedEntry, untrackedEntry, corresponds.quantum_eq]
  rw [Scheduler.enqueue, Scheduler.enqueue, entry_eq]
  refine observed.andThen ?_
  intro pushed woken counterpart next
  cases pushed with
  | none => exact ⟨rfl, rfl, rfl, next⟩
  | some pushed =>
      have queued := (next.withQueues (woken.queues.push pushed.tier
        ⟨task, pushed.slice, pushed.generation⟩)).count lockstep task (.enqueue flags.genuineWakeup)
      dsimp only
      rw [next.queues_eq, queued.kickingTier_eq]
      split
      · refine (queued.kickVictim lockstep pushed.tier task).andThen ?_
        intro _ kicked same after
        exact after.quiet ()
      · exact queued.quiet ()

theorem dispatch (corresponds : scheduler.Corresponds correspondence other) (unit : Nat) :
    Outcome.Rel (Corresponds correspondence) (scheduler.dispatch unit) (other.dispatch unit) := by
  have drawn := corresponds.rosters.draw lockstep.claimable scheduler.queues
  rw [Scheduler.dispatch, Scheduler.dispatch, corresponds.queues_eq]
  generalize draw scheduler.queues scheduler.roster = first,
    draw scheduler.queues other.roster = second at drawn
  rcases first with ⟨taken, stale, queues, left⟩
  rcases second with ⟨_, _, _, found⟩
  rcases drawn with ⟨rfl, rfl, rfl, related⟩
  have served := (corresponds.withRoster related).withQueues queues
  cases taken with
  | none => exact ⟨rfl, rfl, rfl, served⟩
  | some entry => exact ⟨rfl, rfl, rfl, served.count lockstep unit (.dispatch entry.1 false)⟩

theorem settleWait (corresponds : scheduler.Corresponds correspondence other) (unit : Nat)
    (task : TaskId) (wait : Profile.Wait) :
    Outcome.Rel (Corresponds correspondence) (scheduler.settleWait unit task wait)
      (other.settleWait unit task wait) := by
  have counted := corresponds.count lockstep unit (.wait wait.tier wait.duration)
  rw [Scheduler.settleWait, Scheduler.settleWait]
  cases wait.judgement with
  | demotion source target => exact ⟨rfl, rfl, rfl, counted.count lockstep unit .waitDemotion⟩
  | tolerated => exact counted.quiet ()
  | breach count => exact counted.quiet ()
  | unlimited => exact counted.quiet ()

theorem reportRunning (corresponds : scheduler.Corresponds correspondence other) (unit : Nat)
    (tier : Tier) :
    (scheduler.reportRunning unit tier).Corresponds correspondence
      (other.reportRunning unit tier) :=
  corresponds.withOccupancy (lockstep.reportRunning unit tier corresponds.occupancies)

theorem start (corresponds : scheduler.Corresponds correspondence other) (unit : Nat)
    (task : TaskId) :
    Outcome.Rel (Corresponds correspondence) (scheduler.start now unit task)
      (other.start later unit task) := by
  have observed := corresponds.observe lockstep task unit
    (lockstep.start scheduler.config.waitBudget) untrackedStart
  rw [Scheduler.start, Scheduler.start, corresponds.waitBudget_eq]
  refine observed.andThen ?_
  rintro ⟨tier, wait, undispatched, regular⟩ next counterpart related
  cases wait with
  | none =>
      cases undispatched with
      | none => exact ⟨rfl, rfl, rfl, related.reportRunning lockstep unit tier⟩
      | some source =>
          have cleared := related.dropEntries source task
          exact ⟨rfl, rfl, rfl, cleared.reportRunning lockstep unit tier⟩
  | some wait =>
      cases undispatched with
      | none =>
          have settled := related.settleWait lockstep unit task wait
          exact ⟨rfl, rfl, congrArg (_ ++ ·) settled.notices_eq,
            settled.schedulers.reportRunning lockstep unit tier⟩
      | some source =>
          have settled := (related.dropEntries source task).settleWait lockstep unit task wait
          exact ⟨rfl, rfl, congrArg (_ ++ ·) settled.notices_eq,
            settled.schedulers.reportRunning lockstep unit tier⟩

theorem stop (corresponds : scheduler.Corresponds correspondence other) (unit : Nat)
    (task : TaskId) (requeue : Bool)
    (admitted : correspondence.Admits scheduler (.stop unit task requeue)) :
    Outcome.Rel (Corresponds correspondence) (scheduler.stop now unit task requeue)
      (other.stop later unit task requeue) := by
  have updated := corresponds.rosters.update task fun profile _ tracked profiles =>
    lockstep.stop scheduler.config requeue profiles (admitted profile tracked)
  simp only [Scheduler.stop, corresponds.stop_eq]
  generalize scheduler.roster.update task _ = first, other.roster.update task _ = second at updated
  rcases first with ⟨report, written⟩
  rcases second with ⟨_, counterpart⟩
  rcases updated with ⟨rfl, related⟩
  have stored := corresponds.withRoster related
  dsimp only
  cases report.join with
  | none => exact stored.quiet ()
  | some moved =>
      exact ⟨rfl, rfl, rfl, stored.count lockstep unit (.reclassification moved.1 moved.2)⟩

theorem tick (corresponds : scheduler.Corresponds correspondence other) (unit : Nat)
    (task : TaskId) :
    Outcome.Rel (Corresponds correspondence) (scheduler.tick now unit task)
      (other.tick later unit task) := by
  have updated := corresponds.rosters.update task fun _ _ _ profiles =>
    lockstep.checkCeiling scheduler.config.runCeiling profiles
  simp only [Scheduler.tick, corresponds.runCeiling_eq]
  generalize scheduler.roster.update task _ = first, other.roster.update task _ = second at updated
  rcases first with ⟨report, written⟩
  rcases second with ⟨_, counterpart⟩
  rcases updated with ⟨rfl, related⟩
  have stored := corresponds.withRoster related
  dsimp only
  cases report.join with
  | none => exact stored.quiet ()
  | some overrun =>
      exact ⟨rfl, rfl, rfl, stored.count lockstep unit (.starvationKick overrun.1)⟩

theorem changeIdle (corresponds : scheduler.Corresponds correspondence other) (unit : Nat)
    (idle : Bool) :
    Outcome.Rel (Corresponds correspondence) (scheduler.changeIdle unit idle)
      (other.changeIdle unit idle) := by
  rw [Scheduler.changeIdle, Scheduler.changeIdle, corresponds.units_eq]
  split
  · cases idle with
    | false =>
        exact (corresponds.withOccupancy
          (lockstep.reportBusy unit corresponds.occupancies)).quiet ()
    | true =>
        exact (corresponds.withOccupancy
          (lockstep.reportIdle unit corresponds.occupancies)).quiet ()
  · exact ⟨rfl, rfl, rfl, corresponds⟩

theorem exit (corresponds : scheduler.Corresponds correspondence other) (task : TaskId) :
    Outcome.Rel (Corresponds correspondence) (scheduler.exit task) (other.exit task) := by
  have removed := corresponds.rosters.remove task fun _ _ profiles => lockstep.waitsIn_eq profiles
  have forgotten := corresponds.withRoster removed.2
  simp only [Scheduler.exit, removed.1]
  cases (other.roster.remove task).1.bind Profile.waitsIn with
  | none => exact (forgotten.dropEntries .interactive task).quiet ()
  | some tier =>
      exact ((forgotten.dropEntries tier task).dropEntries .interactive task).quiet ()

/-- Every event shows the same to the host in corresponding schedulers and leaves corresponding
schedulers behind. -/
theorem handle (corresponds : scheduler.Corresponds correspondence other) (event : Event)
    (admitted : correspondence.Admits scheduler event) :
    Outcome.Rel (Corresponds correspondence) (scheduler.handle now event)
      (other.handle later event) := by
  cases event with
  | wake task previous flags =>
      exact (corresponds.wake lockstep task previous flags).map Reply.placed
  | enqueue task flags => exact (corresponds.enqueue lockstep task flags).map fun _ => Reply.none
  | dispatch unit => exact (corresponds.dispatch lockstep unit).map Reply.dispatched
  | start unit task => exact (corresponds.start lockstep unit task).map fun _ => Reply.none
  | stop unit task requeue =>
      exact (corresponds.stop lockstep unit task requeue admitted).map fun _ => Reply.none
  | tick unit task => exact (corresponds.tick lockstep unit task).map fun _ => Reply.none
  | changeIdle unit idle =>
      exact (corresponds.changeIdle lockstep unit idle).map fun _ => Reply.none
  | exit task => exact (corresponds.exit lockstep task).map fun _ => Reply.none

end Callbacks

/-- Histories of the same events, at readings at which schedulers go in lockstep, show the same to the
host at every step in corresponding schedulers, and end in corresponding schedulers. -/
theorem run {history counterpart : List (Nanos × Event)}
    (corresponds : scheduler.Corresponds correspondence other)
    (histories : List.Forall₂
      (fun first second => first.2 = second.2 ∧ correspondence.Lockstep first.1 second.1)
      history counterpart)
    (admitted : scheduler.Along correspondence.Admits history) :
    List.Forall₂ (Outcome.Rel (Corresponds correspondence)) (scheduler.outcomes history)
        (other.outcomes counterpart) ∧
      (scheduler.after history).Corresponds correspondence (other.after counterpart) := by
  induction histories generalizing scheduler other with
  | nil => exact ⟨.nil, corresponds⟩
  | @cons first second earlier others reported _ ih =>
      rcases first with ⟨now, event⟩
      rcases second with ⟨later, same⟩
      rcases reported with ⟨rfl, lockstep⟩
      have step := corresponds.handle lockstep event admitted.1
      rcases ih step.schedulers admitted.2 with ⟨outcomes, final⟩
      exact ⟨.cons step outcomes, final⟩

end Scheduler.Corresponds

end TierSched
