import TierSched.Proofs.Checked.Durations
import TierSched.Proofs.Checked.Storage
import TierSched.Proofs.Checked.Units
import TierSched.Scheduler.Event

/-!
# Checked callbacks

Every callback with checked operations. The steps are the ones of the plain callbacks, in the same
order, so that a trap in any of them is the result of the whole callback. A profile is changed inside
the roster, where the change can trap as well. Only these changes need an accepted configuration;
everything else is protected by its own guards.
-/

namespace TierSched

namespace Outcome

variable {First Second : Type}

def checkedAndThen (first : Outcome First) (step : First → Scheduler → Checked (Outcome Second)) :
    Checked (Outcome Second) := do
  let second ← step first.reply first.scheduler
  return { second with
    kicks := first.kicks ++ second.kicks
    notices := first.notices ++ second.notices }

theorem checkedAndThen_eq (first : Outcome First)
    {step : First → Scheduler → Checked (Outcome Second)} {plain : First → Scheduler → Outcome Second}
    (agree : ∀ reply scheduler, step reply scheduler = .ok (plain reply scheduler)) :
    first.checkedAndThen step = .ok (first.andThen plain) := by
  rw [checkedAndThen, agree]
  rfl

end Outcome

/-- The titles of the tiers as they are stored, one row for each tier. -/
def Tier.titles : Tier.Table String :=
  .ofFn title

namespace Notice

/-- The tiers whose titles appear in the text of a notice. -/
def tiers : Notice → List Tier
  | victimKicked _ tier | placed _ tier _ | dispatched _ _ tier | overran _ tier _ _ _ => [tier]
  | demoted _ source target _ | reclassified _ source target => [source, target]
  | _ => []

/-- Looks up the titles that the text of a notice contains. -/
def checkedTitles (notice : Notice) : Checked (List String) :=
  notice.tiers.mapM Tier.titles.checkedGet

theorem checkedTitles_eq (notice : Notice) :
    notice.checkedTitles = .ok (notice.tiers.map Tier.title) := by
  have title_eq : Tier.titles.checkedGet = fun tier => pure tier.title := by
    funext tier
    rw [Tier.Table.checkedGet_eq, Tier.titles, Tier.Table.get_ofFn, Checked.pure_eq]
  rw [checkedTitles, title_eq, List.mapM_pure, Checked.pure_eq]

end Notice

namespace Scheduler

variable (scheduler : Scheduler)

def checkedCount (hint : Nat) (occurrence : Occurrence) : Checked Scheduler := do
  let statistics ← scheduler.statistics.checkedRecord hint occurrence
  return { scheduler with statistics }

def checkedObserve {Report : Type} (task : TaskId) (hint : Nat)
    (change : Profile → Checked (Report × Profile)) (untracked : Report) :
    Checked (Outcome Report) := do
  let fresh := Profile.checkedFresh scheduler.config
  match ← scheduler.roster.checkedUpdateOrInsert task fresh change with
  | (.ok report, roster) => return { reply := report, scheduler := { scheduler with roster } }
  | (.error _, roster) =>
    let counted ← { scheduler with roster }.checkedCount hint .fallback
    return { reply := untracked, scheduler := counted, notices := [.untracked task] }

def checkedKickVictim (tier : Tier) (now : Nanos) (hint : Nat) :
    Checked (Outcome (Option Nat)) := do
  match ← scheduler.occupancy.checkedChooseVictim tier now with
  | (none, occupancy) => return { reply := none, scheduler := { scheduler with occupancy } }
  | (some unit, occupancy) =>
    let counted ← { scheduler with occupancy }.checkedCount hint .victimKick
    return {
      reply := some unit
      scheduler := counted
      kicks := [⟨unit, .preemption⟩]
      notices := [.victimKicked unit tier] }

def checkedMarkKickedOnWake (task : TaskId) : Checked Scheduler := do
  let marked ← scheduler.roster.checkedUpdate task fun profile =>
    .ok ((), { profile with kickedOnWake := true })
  return { scheduler with roster := marked.2 }

def checkedPlace (now : Nanos) (task : TaskId) (previous : Option Nat) (flags : WakeFlags)
    (tier : Tier) (slice : Nanos) : Checked (Outcome Placement) := do
  let followed := if flags.fork then none else previous
  let preferences ← scheduler.topology.checkedPreferences followed tier
  match ← scheduler.occupancy.checkedTakeIdle preferences with
  | (some unit, occupancy) =>
    let counted ← { scheduler with occupancy }.checkedCount unit (.dispatch tier true)
    return {
      reply := ⟨unit, true, slice⟩
      scheduler := counted
      notices := [.placed task tier unit] }
  | (none, _) =>
    let search ← (if flags.sync then .ok { reply := none, scheduler }
      else scheduler.checkedKickVictim tier now (previous.getD 0))
    search.checkedAndThen fun victim searched => do
      match victim with
      | some unit =>
        let marked ← searched.checkedMarkKickedOnWake task
        return { reply := ⟨unit, false, slice⟩, scheduler := marked }
      | none =>
        let known := previous.filter fun unit => unit < searched.config.units
        return { reply := ⟨known.getD 0, false, slice⟩, scheduler := searched }

def checkedWake (now : Nanos) (task : TaskId) (previous : Option Nat) (flags : WakeFlags) :
    Checked (Outcome Placement) := do
  let observed ← scheduler.checkedObserve task (previous.getD 0)
    (fun profile => .ok (profile.wake now)) (.interactive, scheduler.config.quantum)
  observed.checkedAndThen fun (tier, slice) woken =>
    woken.checkedPlace now task previous flags tier slice

def checkedEnqueue (now : Nanos) (task : TaskId) (flags : EnqueueFlags) :
    Checked (Outcome Unit) := do
  let wakeup := flags.genuineWakeup
  let observed ← scheduler.checkedObserve task task (fun profile => .ok (profile.enqueue now))
    (some scheduler.untrackedEntry)
  observed.checkedAndThen fun pushed next => do
    match pushed with
    | none => return { reply := (), scheduler := next, notices := [.alreadyQueued task] }
    | some pushed =>
      let queues ← next.queues.checkedPush pushed.tier ⟨task, pushed.slice, pushed.generation⟩
      let queued ← { next with queues }.checkedCount task (.enqueue wakeup)
      if wakeup ∧ pushed.kickedOnWake = false ∧ pushed.tier ≤ queued.config.kickingTier then
        let kicked ← queued.checkedKickVictim pushed.tier now task
        kicked.checkedAndThen fun _ kicked => .ok { reply := (), scheduler := kicked }
      else
        return { reply := (), scheduler := queued }

def checkedDispatch (unit : Nat) : Checked (Outcome (Option Assignment)) := do
  let drawn ← checkedDraw scheduler.queues scheduler.roster
  let served := { scheduler with queues := drawn.queues, roster := drawn.roster }
  let discarded := drawn.stale.map fun entry => Notice.staleEntry entry.task
  match drawn.taken with
  | none => return { reply := none, scheduler := served, notices := discarded }
  | some (tier, entry) =>
    let counted ← served.checkedCount unit (.dispatch tier false)
    return {
      reply := some ⟨entry.task, entry.slice, tier⟩
      scheduler := counted
      notices := discarded ++ [.dispatched unit entry.task tier] }

def checkedDropEntries (tier : Tier) (task : TaskId) : Checked Scheduler := do
  let dropped ← scheduler.queues.checkedDrop tier task
  return { scheduler with queues := dropped.2 }

def checkedSettleWait (unit : Nat) (task : TaskId) (wait : Profile.Wait) :
    Checked (Outcome Unit) := do
  let counted ← scheduler.checkedCount unit (.wait wait.tier wait.duration)
  match wait.judgement with
  | .demotion source target =>
    let demoted ← counted.checkedCount unit .waitDemotion
    return {
      reply := ()
      scheduler := demoted
      notices := [.demoted task source target wait.duration] }
  | .tolerated | .breach _ | .unlimited => return { reply := (), scheduler := counted }

def checkedReportRunning (unit : Nat) (tier : Tier) : Checked Scheduler := do
  let reported ← scheduler.occupancy.checkedReportRunning unit tier
  return { scheduler with occupancy := reported.2 }

def checkedStart (now : Nanos) (unit : Nat) (task : TaskId) : Checked (Outcome Unit) := do
  let observed ← scheduler.checkedObserve task unit
    (fun profile => profile.checkedStart scheduler.config.waitBudget now) untrackedStart
  observed.checkedAndThen fun started next => do
    let cleared ← started.undispatched.elim (.ok next) fun tier =>
      next.checkedDropEntries tier task
    let settled ← started.wait.elim (.ok { reply := (), scheduler := cleared }) fun wait =>
      cleared.checkedSettleWait unit task wait
    let running ← settled.scheduler.checkedReportRunning unit started.tier
    return {
      reply := ()
      scheduler := running
      notices := (if started.regular then [] else [.irregularStart task]) ++ settled.notices }

def checkedStop (now : Nanos) (unit : Nat) (task : TaskId) (requeue : Bool) :
    Checked (Outcome Unit) := do
  let stopped ← scheduler.roster.checkedUpdate task fun profile =>
    profile.checkedStop scheduler.config now requeue
  let next := { scheduler with roster := stopped.2 }
  match stopped.1.join with
  | none => return { reply := (), scheduler := next }
  | some (source, target) =>
    let counted ← next.checkedCount unit (.reclassification source target)
    return {
      reply := ()
      scheduler := counted
      notices := if source = target then [] else [.reclassified task source target] }

def checkedTick (now : Nanos) (unit : Nat) (task : TaskId) : Checked (Outcome Unit) := do
  let checked ← scheduler.roster.checkedUpdate task fun profile =>
    profile.checkedCheckCeiling scheduler.config.ceilings now
  let next := { scheduler with roster := checked.2 }
  match checked.1.join with
  | none => return { reply := (), scheduler := next }
  | some (tier, runtime) =>
    let counted ← next.checkedCount unit (.starvationKick tier)
    let ceiling ← scheduler.config.ceilings.checkedGet tier
    return {
      reply := ()
      scheduler := counted
      kicks := [⟨unit, .starvation⟩]
      notices := [.overran task tier runtime ceiling unit] }

def checkedChangeIdle (unit : Nat) (idle : Bool) : Checked (Outcome Unit) :=
  if unit < scheduler.config.units then do
    let occupancy ← (if idle then scheduler.occupancy.checkedReportIdle unit
      else scheduler.occupancy.checkedReportBusy unit)
    return { reply := (), scheduler := { scheduler with occupancy } }
  else
    return { reply := (), scheduler, notices := [.unknownUnit unit] }

def checkedExit (task : TaskId) : Checked (Outcome Unit) := do
  let removed ← scheduler.roster.checkedRemove task
  let forgotten := { scheduler with roster := removed.2 }
  let cleared ← (removed.1.bind fun profile => profile.waitsIn).elim (.ok forgotten) fun tier =>
    forgotten.checkedDropEntries tier task
  let dropped ← cleared.checkedDropEntries .interactive task
  return { reply := (), scheduler := dropped }

/-- Hands an event to its checked callback. -/
def checkedHandle (now : Nanos) : Event → Checked (Outcome Reply)
  | .wake task previous flags =>
    return (← scheduler.checkedWake now task previous flags).map .placed
  | .enqueue task flags => return (← scheduler.checkedEnqueue now task flags).map fun _ => .none
  | .dispatch unit => return (← scheduler.checkedDispatch unit).map .dispatched
  | .start unit task => return (← scheduler.checkedStart now unit task).map fun _ => .none
  | .stop unit task requeue =>
    return (← scheduler.checkedStop now unit task requeue).map fun _ => .none
  | .tick unit task => return (← scheduler.checkedTick now unit task).map fun _ => .none
  | .changeIdle unit idle => return (← scheduler.checkedChangeIdle unit idle).map fun _ => .none
  | .exit task => return (← scheduler.checkedExit task).map fun _ => .none

/-- The outcomes of the events of a history, in order, unless one of the callbacks traps. -/
def checkedOutcomes (scheduler : Scheduler) :
    List (Nanos × Event) → Checked (List (Outcome Reply))
  | [] => return []
  | (now, event) :: later => do
    let outcome ← scheduler.checkedHandle now event
    let others ← outcome.scheduler.checkedOutcomes later
    return outcome :: others

theorem checkedCount_eq (hint : Nat) (occurrence : Occurrence) :
    scheduler.checkedCount hint occurrence = .ok (scheduler.count hint occurrence) := by
  rw [checkedCount, Statistics.checkedRecord_eq]
  rfl

theorem checkedObserve_eq {Report : Type} (accepted : scheduler.config.Accepted) (task : TaskId)
    (hint : Nat) {change : Profile → Checked (Report × Profile)}
    {plain : Profile → Report × Profile} (agree : ∀ profile, change profile = .ok (plain profile))
    (untracked : Report) :
    scheduler.checkedObserve task hint change untracked =
      .ok (scheduler.observe task hint plain untracked) := by
  rw [checkedObserve, scheduler.roster.checkedUpdateOrInsert_eq task
    (Profile.checkedFresh_eq accepted) agree, Checked.ok_bind, observe, freshProfile]
  rcases scheduler.roster.updateOrInsert task (.fresh scheduler.config) plain with ⟨answer, roster⟩
  cases answer with
  | ok report => rfl
  | error fault =>
      dsimp only
      rw [checkedCount_eq]
      rfl

theorem checkedKickVictim_eq (tier : Tier) (now : Nanos) (hint : Nat) :
    scheduler.checkedKickVictim tier now hint = .ok (scheduler.kickVictim tier now hint) := by
  rw [checkedKickVictim, Occupancy.checkedChooseVictim_eq, Checked.ok_bind, kickVictim]
  rcases scheduler.occupancy.chooseVictim tier now with ⟨victim, occupancy⟩
  cases victim with
  | none => rfl
  | some unit =>
      dsimp only
      rw [checkedCount_eq]
      rfl

theorem checkedMarkKickedOnWake_eq (task : TaskId) :
    scheduler.checkedMarkKickedOnWake task = .ok (scheduler.markKickedOnWake task) := by
  rw [checkedMarkKickedOnWake, scheduler.roster.checkedUpdate_eq task fun _ => rfl]
  rfl

theorem checkedPlace_eq (now : Nanos) (task : TaskId) (previous : Option Nat) (flags : WakeFlags)
    (tier : Tier) (slice : Nanos) :
    scheduler.checkedPlace now task previous flags tier slice =
      .ok (scheduler.place now task previous flags tier slice) := by
  simp only [checkedPlace, Topology.checkedPreferences_eq, Occupancy.checkedTakeIdle_eq,
    Checked.ok_bind, checkedKickVictim_eq, place]
  rcases scheduler.occupancy.takeIdle
    (scheduler.topology.preferences (if flags.fork then none else previous) tier) with
    ⟨idle, occupancy⟩
  cases idle with
  | some unit => simp only [checkedCount_eq, Checked.ok_bind, Checked.pure_eq]
  | none =>
      dsimp only
      rw [← apply_ite Except.ok, Checked.ok_bind]
      apply Outcome.checkedAndThen_eq
      intro victim next
      cases victim with
      | none => rfl
      | some unit =>
          dsimp only
          rw [checkedMarkKickedOnWake_eq]
          rfl

theorem checkedWake_eq (accepted : scheduler.config.Accepted) (now : Nanos) (task : TaskId)
    (previous : Option Nat) (flags : WakeFlags) :
    scheduler.checkedWake now task previous flags = .ok (scheduler.wake now task previous flags) := by
  rw [checkedWake, scheduler.checkedObserve_eq accepted task _ fun _ => rfl, Checked.ok_bind, wake]
  apply Outcome.checkedAndThen_eq
  intro reply woken
  exact woken.checkedPlace_eq now task previous flags reply.1 reply.2

theorem checkedEnqueue_eq (accepted : scheduler.config.Accepted) (now : Nanos) (task : TaskId)
    (flags : EnqueueFlags) :
    scheduler.checkedEnqueue now task flags = .ok (scheduler.enqueue now task flags) := by
  rw [checkedEnqueue, scheduler.checkedObserve_eq accepted task _ fun _ => rfl, Checked.ok_bind,
    enqueue]
  apply Outcome.checkedAndThen_eq
  intro pushed next
  cases pushed with
  | none => rfl
  | some pushed =>
      simp only [ReadyQueues.checkedPush_eq, checkedCount_eq, checkedKickVictim_eq, Checked.ok_bind]
      split
      · exact Outcome.checkedAndThen_eq _ fun _ _ => rfl
      · rfl

theorem checkedDispatch_eq (unit : Nat) :
    scheduler.checkedDispatch unit = .ok (scheduler.dispatch unit) := by
  rw [checkedDispatch, checkedDraw_eq, Checked.ok_bind, dispatch]
  cases (draw scheduler.queues scheduler.roster).taken with
  | none => rfl
  | some found =>
      dsimp only
      rw [checkedCount_eq]
      rfl

theorem checkedDropEntries_eq (tier : Tier) (task : TaskId) :
    scheduler.checkedDropEntries tier task = .ok (scheduler.dropEntries tier task) := by
  rw [checkedDropEntries, ReadyQueues.checkedDrop_eq]
  rfl

theorem checkedSettleWait_eq (unit : Nat) (task : TaskId) (wait : Profile.Wait) :
    scheduler.checkedSettleWait unit task wait = .ok (scheduler.settleWait unit task wait) := by
  rw [checkedSettleWait, checkedCount_eq, Checked.ok_bind, settleWait]
  cases wait.judgement with
  | demotion source target =>
      dsimp only
      rw [checkedCount_eq]
      rfl
  | _ => rfl

theorem checkedReportRunning_eq (unit : Nat) (tier : Tier) :
    scheduler.checkedReportRunning unit tier = .ok (scheduler.reportRunning unit tier) := by
  rw [checkedReportRunning, Occupancy.checkedReportRunning_eq]
  rfl

theorem checkedStart_eq (accepted : scheduler.config.Accepted) (now : Nanos) (unit : Nat)
    (task : TaskId) :
    scheduler.checkedStart now unit task = .ok (scheduler.start now unit task) := by
  rw [checkedStart, scheduler.checkedObserve_eq accepted task unit fun profile =>
    profile.checkedStart_eq accepted now, Checked.ok_bind, start]
  apply Outcome.checkedAndThen_eq
  intro started next
  simp only [checkedDropEntries_eq, checkedSettleWait_eq, checkedReportRunning_eq, Checked.elim_ok,
    Checked.ok_bind, Checked.pure_eq]
  cases started.undispatched <;> cases started.wait <;> rfl

theorem checkedStop_eq (accepted : scheduler.config.Accepted) (now : Nanos) (unit : Nat)
    (task : TaskId) (requeue : Bool) :
    scheduler.checkedStop now unit task requeue = .ok (scheduler.stop now unit task requeue) := by
  rw [checkedStop, scheduler.roster.checkedUpdate_eq task fun profile =>
    profile.checkedStop_eq accepted now requeue, Checked.ok_bind]
  simp only [stop]
  cases (scheduler.roster.update task fun profile =>
    profile.stop scheduler.config now requeue).1.join with
  | none => rfl
  | some moved =>
      dsimp only
      rw [checkedCount_eq]
      rfl

theorem checkedTick_eq (now : Nanos) (unit : Nat) (task : TaskId) :
    scheduler.checkedTick now unit task = .ok (scheduler.tick now unit task) := by
  rw [checkedTick, scheduler.roster.checkedUpdate_eq task fun profile =>
    profile.checkedCheckCeiling_eq scheduler.config now, Checked.ok_bind]
  simp only [tick]
  cases (scheduler.roster.update task fun profile =>
    profile.checkCeiling scheduler.config.runCeiling now).1.join with
  | none => rfl
  | some overrun =>
      dsimp only
      rw [checkedCount_eq, Checked.ok_bind, Tier.Table.checkedGet_eq, Config.ceilings,
        Tier.Table.get_ofFn]
      rfl

theorem checkedChangeIdle_eq (unit : Nat) (idle : Bool) :
    scheduler.checkedChangeIdle unit idle = .ok (scheduler.changeIdle unit idle) := by
  unfold checkedChangeIdle changeIdle
  split
  · rw [Occupancy.checkedReportIdle_eq, Occupancy.checkedReportBusy_eq, ← apply_ite Except.ok]
    rfl
  · rfl

theorem checkedExit_eq (task : TaskId) :
    scheduler.checkedExit task = .ok (scheduler.exit task) := by
  simp only [checkedExit, exit, Roster.checkedRemove_eq, checkedDropEntries_eq, Checked.elim_ok,
    Checked.ok_bind, Checked.pure_eq]
  cases (scheduler.roster.remove task).1.bind fun profile => profile.waitsIn <;> rfl

/-- No event makes a callback trap, and the checked callback does what the plain one does. -/
theorem checkedHandle_eq (accepted : scheduler.config.Accepted) (now : Nanos) (event : Event) :
    scheduler.checkedHandle now event = .ok (scheduler.handle now event) := by
  cases event with
  | wake task previous flags =>
      rw [checkedHandle, scheduler.checkedWake_eq accepted]
      rfl
  | enqueue task flags =>
      rw [checkedHandle, scheduler.checkedEnqueue_eq accepted]
      rfl
  | dispatch unit =>
      rw [checkedHandle, checkedDispatch_eq]
      rfl
  | start unit task =>
      rw [checkedHandle, scheduler.checkedStart_eq accepted]
      rfl
  | stop unit task requeue =>
      rw [checkedHandle, scheduler.checkedStop_eq accepted]
      rfl
  | tick unit task =>
      rw [checkedHandle, checkedTick_eq]
      rfl
  | changeIdle unit idle =>
      rw [checkedHandle, checkedChangeIdle_eq]
      rfl
  | exit task =>
      rw [checkedHandle, checkedExit_eq]
      rfl

end Scheduler

end TierSched
