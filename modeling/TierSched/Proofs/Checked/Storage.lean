import TierSched.Proofs.Checked.Primitive
import TierSched.Proofs.Draw
import TierSched.Scheduler.Basic

/-!
# Checked statistics, rosters and queues

The roster is indexed by the lowest bits of a task, the statistics by the remainder of a hint modulo
the number of shards, and both the counters and the lanes by the rank of a tier. Remainders are taken
in two places: of a hint, and of the number of the attempt modulo the interval whenever an entry is
taken from the queues. That neither modulus is zero is part of the types `Statistics` and
`ReadyQueues`.
-/

namespace TierSched

/-- Counts an occurrence; three kinds of them are counted apart for every tier. -/
def Counters.checkedRecord (counters : Counters) : Occurrence → Checked Counters
  | .dispatch tier direct => do
      let tierDispatches ← counters.tierDispatches.checkedModify tier (· + 1)
      return { counters with
        dispatches := counters.dispatches + 1
        tierDispatches
        directDispatches :=
          if direct then counters.directDispatches + 1 else counters.directDispatches }
  | .wait tier duration => do
      let waits ← counters.waits.checkedModify tier (·.record duration)
      return { counters with waits }
  | .starvationKick tier => do
      let starvationKicks ← counters.starvationKicks.checkedModify tier (· + 1)
      return { counters with starvationKicks }
  | occurrence => return counters.record occurrence

theorem Counters.checkedRecord_eq (counters : Counters) (occurrence : Occurrence) :
    counters.checkedRecord occurrence = .ok (counters.record occurrence) := by
  cases occurrence with
  | dispatch _ _ | wait _ _ | starvationKick _ =>
      rw [checkedRecord, Tier.Table.checkedModify_eq]
      rfl
  | _ => rfl

def Statistics.checkedRecord (statistics : Statistics) (hint : Nat) (occurrence : Occurrence) :
    Checked Statistics :=
  if statistics.enabled then do
    let shard ← Checked.remainder hint statistics.shards.size
    let counters ← Checked.read statistics.shards.toVector shard
    let counted ← counters.checkedRecord occurrence
    let shards ← Checked.write statistics.shards.toVector shard counted
    return { statistics with
      shards := shards.toArray
      shards_nonempty := by simpa using statistics.shards_nonempty }
  else
    return statistics

theorem Statistics.checkedRecord_eq (statistics : Statistics) (hint : Nat)
    (occurrence : Occurrence) :
    statistics.checkedRecord hint occurrence = .ok (statistics.record hint occurrence) := by
  unfold checkedRecord record
  split
  · have nonzero : statistics.shards.size ≠ 0 := Nat.ne_of_gt statistics.shards_nonempty
    have exist := Nat.mod_lt hint statistics.shards_nonempty
    rw [Checked.remainder_eq hint nonzero, Checked.ok_bind, Checked.read_eq _ exist,
      Checked.ok_bind, Counters.checkedRecord_eq, Checked.ok_bind, Checked.write_eq _ exist]
    rfl
  · rfl

namespace Roster

variable {Reply : Type} (roster : Roster) (task : TaskId)

def checkedGet? : Checked (Option Profile) := do
  let shard ← Checked.read roster.shards (task % shardCount)
  return shard[task]?

def checkedPut (profile : Profile) : Checked Roster := do
  let shard ← Checked.read roster.shards (task % shardCount)
  let shards ← Checked.write roster.shards (task % shardCount) (shard.insert task profile)
  return { roster with shards }

def checkedUpdate (change : Profile → Checked (Reply × Profile)) :
    Checked (Option Reply × Roster) := do
  match ← roster.checkedGet? task with
  | none => return (none, roster)
  | some profile =>
    let changed ← change profile
    let next ← roster.checkedPut task changed.2
    return (some changed.1, next)

/-- Applies a change to the profile of a task. The profile `fresh` is only computed when it is
needed. -/
def checkedUpdateOrInsert (fresh : Checked Profile) (change : Profile → Checked (Reply × Profile)) :
    Checked (Except Fault Reply × Roster) := do
  match ← roster.checkedGet? task with
  | some profile =>
    let changed ← change profile
    let next ← roster.checkedPut task changed.2
    return (.ok changed.1, next)
  | none =>
    if roster.capacity ≤ roster.count then
      return (.error (.rosterFull roster.capacity), roster)
    else
      let profile ← fresh
      let changed ← change profile
      let next ← roster.checkedPut task changed.2
      return (.ok changed.1, { next with count := roster.count + 1 })

def checkedRemove : Checked (Option Profile × Roster) := do
  match ← roster.checkedGet? task with
  | none => return (none, roster)
  | some profile =>
    let shard ← Checked.read roster.shards (task % shardCount)
    let shards ← Checked.write roster.shards (task % shardCount) (shard.erase task)
    return (some profile, { roster with shards, count := roster.count - 1 })

def checkedClaim (entry : Entry) : Checked (Bool × Roster) := do
  let claimed ← roster.checkedUpdate entry.task fun profile => .ok (profile.claim entry.generation)
  return (claimed.1.getD (entry.generation == Generation.untracked), claimed.2)

theorem mod_shardCount_lt : task % shardCount < shardCount :=
  (shardOf task).isLt

theorem checkedGet?_eq : roster.checkedGet? task = .ok (roster.get? task) := by
  rw [checkedGet?, Checked.read_eq roster.shards (mod_shardCount_lt task)]
  rfl

theorem checkedPut_eq (profile : Profile) :
    roster.checkedPut task profile = .ok (roster.put task profile) := by
  rw [checkedPut, Checked.read_eq roster.shards (mod_shardCount_lt task), Checked.ok_bind,
    Checked.write_eq roster.shards (mod_shardCount_lt task)]
  rfl

variable {change : Profile → Checked (Reply × Profile)} {plain : Profile → Reply × Profile}

theorem checkedUpdate_eq (agree : ∀ profile, change profile = .ok (plain profile)) :
    roster.checkedUpdate task change = .ok (roster.update task plain) := by
  rw [checkedUpdate, checkedGet?_eq, update]
  cases roster.get? task with
  | none => rfl
  | some profile => simp only [Checked.ok_bind, agree, checkedPut_eq, Checked.pure_eq]

theorem checkedUpdateOrInsert_eq {fresh : Checked Profile} {made : Profile}
    (fresh_eq : fresh = .ok made) (agree : ∀ profile, change profile = .ok (plain profile)) :
    roster.checkedUpdateOrInsert task fresh change =
      .ok (roster.updateOrInsert task made plain) := by
  rw [checkedUpdateOrInsert, checkedGet?_eq, updateOrInsert, fresh_eq]
  cases roster.get? task with
  | some profile => simp only [Checked.ok_bind, agree, checkedPut_eq, Checked.pure_eq]
  | none =>
      simp only [Checked.ok_bind, agree, checkedPut_eq, Checked.pure_eq]
      split <;> rfl

theorem checkedRemove_eq : roster.checkedRemove task = .ok (roster.remove task) := by
  rw [checkedRemove, checkedGet?_eq, remove]
  cases roster.get? task with
  | none => rfl
  | some profile =>
      dsimp only [Checked.ok_bind]
      rw [Checked.read_eq roster.shards (mod_shardCount_lt task), Checked.ok_bind,
        Checked.write_eq roster.shards (mod_shardCount_lt task)]
      rfl

theorem checkedClaim_eq (entry : Entry) : roster.checkedClaim entry = .ok (roster.claim entry) := by
  rw [checkedClaim, roster.checkedUpdate_eq entry.task fun _ => rfl]
  rfl

end Roster

namespace ReadyQueues

variable (queues : ReadyQueues) (tier : Tier)

def checkedPush (entry : Entry) : Checked ReadyQueues := do
  let lanes ← queues.lanes.checkedModify tier (·.push entry)
  return { queues with lanes }

def checkedDrop (task : TaskId) : Checked (Bool × ReadyQueues) := do
  let lane ← queues.lanes.checkedGet tier
  let lanes ← queues.lanes.checkedSet tier (lane.drop task).2
  return ((lane.drop task).1, { queues with lanes })

def checkedOrder : Checked (List Tier) := do
  let turn ← Checked.remainder queues.attempts.toNat queues.interval.toNat
  return if turn = 0 then lowTiersFirst else Tier.all

def checkedPopFirst : List Tier → Checked (Option (Tier × Entry) × ReadyQueues)
  | [] => return (none, queues)
  | tier :: others => do
    let lane ← queues.lanes.checkedGet tier
    match lane.pop? with
    | none => checkedPopFirst others
    | some (entry, rest) =>
      let lanes ← queues.lanes.checkedSet tier rest
      return (some (tier, entry), { queues with lanes })

def checkedPop : Checked (Option (Tier × Entry) × ReadyQueues) := do
  let order ← queues.advance.checkedOrder
  queues.advance.checkedPopFirst order

theorem checkedPush_eq (entry : Entry) :
    queues.checkedPush tier entry = .ok (queues.push tier entry) := by
  rw [checkedPush, Tier.Table.checkedModify_eq]
  rfl

theorem checkedDrop_eq (task : TaskId) :
    queues.checkedDrop tier task = .ok (queues.drop tier task) := by
  rw [checkedDrop, Tier.Table.checkedGet_eq, Checked.ok_bind, Tier.Table.checkedSet_eq]
  rfl

theorem checkedOrder_eq : queues.checkedOrder = .ok queues.order := by
  have nonzero : queues.interval.toNat ≠ 0 := fun zero =>
    queues.interval_ne_zero (UInt64.toNat_inj.mp zero)
  have turn_iff : queues.attempts % queues.interval = 0 ↔
      queues.attempts.toNat % queues.interval.toNat = 0 := by
    rw [← UInt64.toNat_inj, UInt64.toNat_mod, UInt64.toNat_zero]
  simp only [checkedOrder, Checked.remainder_eq _ nonzero, Checked.ok_bind, Checked.pure_eq, order,
    turn_iff]

theorem checkedPopFirst_eq (order : List Tier) :
    queues.checkedPopFirst order = .ok (queues.popFirst order) := by
  induction order with
  | nil => rfl
  | cons tier others ih =>
      rw [checkedPopFirst, Tier.Table.checkedGet_eq, Checked.ok_bind, popFirst, lane]
      cases (queues.lanes.get tier).pop? with
      | none => exact ih
      | some taken =>
          dsimp only
          rw [Tier.Table.checkedSet_eq]
          rfl

theorem checkedPop_eq : queues.checkedPop = .ok queues.pop := by
  rw [checkedPop, checkedOrder_eq, Checked.ok_bind, checkedPopFirst_eq, pop]

end ReadyQueues

/-- Takes entries from the queues until one is live or none is left. The search ends because an
attempt that takes an entry makes the queues lighter, checked or not. -/
def checkedDraw (queues : ReadyQueues) (roster : Roster) : Checked Draw :=
  match popped : queues.checkedPop with
  | .error trap => .error trap
  | .ok (none, rest) => return { taken := none, stale := [], queues := rest, roster }
  | .ok (some (tier, entry), rest) => do
    let claimed ← roster.checkedClaim entry
    if claimed.1 then
      return { taken := some (tier, entry), stale := [], queues := rest, roster := claimed.2 }
    else
      have : rest.weight + 1 = queues.weight :=
        ReadyQueues.weight_pop (Except.ok.inj (queues.checkedPop_eq.symm.trans popped))
      let further ← checkedDraw rest claimed.2
      return { further with stale := entry :: further.stale }
termination_by queues.weight

/-- One attempt of the search, with the plain operations in place of the checked ones. -/
theorem checkedDraw_attempt (queues : ReadyQueues) (roster : Roster) :
    checkedDraw queues roster =
      match queues.pop with
      | (none, rest) => .ok { taken := none, stale := [], queues := rest, roster }
      | (some (tier, entry), rest) =>
        if (roster.claim entry).1 then
          .ok { taken := some (tier, entry), stale := [], queues := rest
                roster := (roster.claim entry).2 }
        else do
          let further ← checkedDraw rest (roster.claim entry).2
          return { further with stale := entry :: further.stale } := by
  rw [checkedDraw]
  split
  · rename_i trap popped
    rw [queues.checkedPop_eq] at popped
    contradiction
  · rename_i rest popped
    rw [queues.checkedPop_eq, Except.ok.injEq] at popped
    rw [popped, Checked.pure_eq]
  · rename_i rest tier entry popped
    rw [queues.checkedPop_eq, Except.ok.injEq] at popped
    rw [popped, Roster.checkedClaim_eq, Checked.ok_bind]
    rfl

theorem checkedDraw_eq (queues : ReadyQueues) (roster : Roster) :
    checkedDraw queues roster = .ok (draw queues roster) := by
  induction queues, roster using draw_induction with
  | exhausted queues roster rest popped => rw [checkedDraw_attempt, popped]
  | found queues roster rest tier entry popped live =>
      rw [checkedDraw_attempt, popped]
      exact if_pos ((Roster.claim_eq_true_iff roster entry).mpr live)
  | discarded queues roster rest tier entry further popped stale ih =>
      rw [checkedDraw_attempt, popped]
      dsimp only
      rw [if_neg (mt (Roster.claim_eq_true_iff roster entry).mp stale), ih]
      rfl

end TierSched
