import TierSched.Scheduler.Basic

/-!
# Dispatching

A unit that needs work takes entries from the ready queues until one is live. An entry of a tracked
task is live if the task waits with it, and is claimed when it is taken; an entry of a task that is
not tracked is live if it was pushed while the task was not tracked. All other entries are stale and
are discarded. Every attempt that takes an entry makes the queues lighter, so the search ends.
-/

namespace TierSched

/-- The entry is the one with which its task waits. -/
def Roster.Live (roster : Roster) (entry : Entry) : Prop :=
  match roster.get? entry.task with
  | some profile => profile.Owns entry.generation
  | none => entry.generation = Generation.untracked

instance (roster : Roster) (entry : Entry) : Decidable (roster.Live entry) := by
  unfold Roster.Live
  split <;> infer_instance

/-- Claims an entry for its task and tells whether it was live. -/
def Roster.claim (roster : Roster) (entry : Entry) : Bool × Roster :=
  let claimed := roster.update entry.task fun profile => profile.claim entry.generation
  (claimed.1.getD (entry.generation == Generation.untracked), claimed.2)

/-- Exactly the live entries can be claimed. -/
theorem Roster.claim_eq_true_iff (roster : Roster) (entry : Entry) :
    (roster.claim entry).1 = true ↔ roster.Live entry := by
  unfold Roster.claim Roster.update Roster.Live
  cases found : roster.get? entry.task with
  | none => simp
  | some profile => simp [Profile.claim_fst]

/-- The result of a search for a live entry. -/
structure Draw where
  /-- The live entry that was found, with the tier in which it waited. -/
  taken : Option (Tier × Entry)
  /-- The stale entries that were discarded, in order. -/
  stale : List Entry
  queues : ReadyQueues
  roster : Roster

/-- Takes entries from the queues until one is live or none is left. -/
def draw (queues : ReadyQueues) (roster : Roster) : Draw :=
  match popped : queues.pop with
  | (none, rest) => { taken := none, stale := [], queues := rest, roster }
  | (some (tier, entry), rest) =>
    match roster.claim entry with
    | (true, claimed) =>
      { taken := some (tier, entry), stale := [], queues := rest, roster := claimed }
    | (false, claimed) =>
      have : rest.weight + 1 = queues.weight := ReadyQueues.weight_pop popped
      let further := draw rest claimed
      { further with stale := entry :: further.stale }
termination_by queues.weight

namespace Scheduler

/-- A unit needs work: hands out the task of the next live entry. -/
def dispatch (scheduler : Scheduler) (unit : Nat) : Outcome (Option Assignment) :=
  let drawn := draw scheduler.queues scheduler.roster
  let served := { scheduler with queues := drawn.queues, roster := drawn.roster }
  let discarded := drawn.stale.map fun entry => Notice.staleEntry entry.task
  match drawn.taken with
  | none => { reply := none, scheduler := served, notices := discarded }
  | some (tier, entry) =>
    { reply := some ⟨entry.task, entry.slice, tier⟩
      scheduler := served.count unit (.dispatch tier false)
      notices := discarded ++ [.dispatched unit entry.task tier] }

end Scheduler

end TierSched
