import Std.Data.TreeMap
import TierSched.Task.Profile

/-!
# The roster of task profiles

The roster holds the profiles of all tracked tasks. They are spread over 16 shards by task and
counted apart, so that the roster knows when it has reached its capacity. Its view is `Roster.get?`,
the partial map from tasks to profiles; the lemmas below say how each operation changes that map.
-/

namespace TierSched

/-- The number of shards. -/
abbrev shardCount : Nat := 16

/-- The profiles of the tracked tasks. -/
structure Roster where
  shards : Vector (Std.TreeMap TaskId Profile) shardCount
  /-- The number of profiles in all shards. -/
  count : Nat
  /-- The greatest number of profiles. -/
  capacity : Nat

namespace Roster

/-- The roster without profiles. -/
def empty (capacity : Nat) : Roster where
  shards := .replicate shardCount ∅
  count := 0
  capacity

/-- The shard that a task belongs to. -/
def shardOf (task : TaskId) : Fin shardCount :=
  Fin.ofNat shardCount task

/-- The profile of a task, none if the task is not tracked. -/
def get? (roster : Roster) (task : TaskId) : Option Profile :=
  roster.shards[shardOf task][task]?

/-- Writes the profile of a task into its shard. -/
def put (roster : Roster) (task : TaskId) (profile : Profile) : Roster :=
  { roster with
    shards := roster.shards.set (shardOf task) (roster.shards[shardOf task].insert task profile) }

/-- Applies a change to the profile of a tracked task, and returns what the change reports. -/
def update {Reply : Type} (roster : Roster) (task : TaskId) (change : Profile → Reply × Profile) :
    Option Reply × Roster :=
  match roster.get? task with
  | none => (none, roster)
  | some profile =>
    let changed := change profile
    (some changed.1, roster.put task changed.2)

/-- Applies a change to the profile of a task. An untracked task is first given the profile `fresh`,
unless the roster is full. -/
def updateOrInsert {Reply : Type} (roster : Roster) (task : TaskId) (fresh : Profile)
    (change : Profile → Reply × Profile) : Except Fault Reply × Roster :=
  match roster.get? task with
  | some profile =>
    let changed := change profile
    (.ok changed.1, roster.put task changed.2)
  | none =>
    if roster.capacity ≤ roster.count then
      (.error (.rosterFull roster.capacity), roster)
    else
      let changed := change fresh
      (.ok changed.1, { roster.put task changed.2 with count := roster.count + 1 })

/-- Forgets a task and returns the profile that it had. -/
def remove (roster : Roster) (task : TaskId) : Option Profile × Roster :=
  match roster.get? task with
  | none => (none, roster)
  | some profile =>
    (some profile,
      { roster with
        shards := roster.shards.set (shardOf task) (roster.shards[shardOf task].erase task)
        count := roster.count - 1 })

@[simp]
theorem get?_empty (capacity : Nat) (task : TaskId) : (empty capacity).get? task = none := by
  simp [empty, get?]

theorem get?_put (roster : Roster) (written read : TaskId) (profile : Profile) :
    (roster.put written profile).get? read =
      if written = read then some profile else roster.get? read := by
  simp only [get?, put, Fin.getElem_fin, Vector.getElem_set]
  by_cases same : written = read
  · subst same
    simp
  · by_cases shared : shardOf written = shardOf read
    · simp [shared, Std.TreeMap.getElem?_insert, same]
    · simp [Fin.val_inj, shared, same]

@[simp]
theorem get?_put_self (roster : Roster) (task : TaskId) (profile : Profile) :
    (roster.put task profile).get? task = some profile := by
  simp [get?_put]

theorem get?_update {Reply : Type} (roster : Roster) (changed read : TaskId)
    (change : Profile → Reply × Profile) :
    (roster.update changed change).2.get? read =
      if changed = read then (roster.get? changed).map fun profile => (change profile).2
      else roster.get? read := by
  unfold update
  cases found : roster.get? changed with
  | none =>
    by_cases same : changed = read
    · subst same
      simp [found]
    · simp [same]
  | some profile => simp [get?_put]

/-- An untracked task stays untracked only if the roster is full. -/
theorem get?_updateOrInsert {Reply : Type} (roster : Roster) (changed read : TaskId)
    (fresh : Profile) (change : Profile → Reply × Profile) :
    (roster.updateOrInsert changed fresh change).2.get? read =
      if changed = read then
        if roster.get? changed = none ∧ roster.capacity ≤ roster.count then none
        else some (change ((roster.get? changed).getD fresh)).2
      else roster.get? read := by
  unfold updateOrInsert
  cases found : roster.get? changed with
  | some profile => simp [get?_put]
  | none =>
    by_cases full : roster.capacity ≤ roster.count
    · by_cases same : changed = read
      · subst same
        simp [full, found]
      · simp [full, same]
    · simp only [full, and_false, if_false, Option.getD_none]
      exact get?_put roster changed read (change fresh).2

theorem get?_remove (roster : Roster) (removed read : TaskId) :
    (roster.remove removed).2.get? read =
      if removed = read then none else roster.get? read := by
  unfold remove
  cases found : roster.get? removed with
  | none =>
    by_cases same : removed = read
    · subst same
      simp [found]
    · simp [same]
  | some profile =>
    simp only [get?, Fin.getElem_fin, Vector.getElem_set]
    by_cases same : removed = read
    · subst same
      simp
    · by_cases shared : shardOf removed = shardOf read
      · simp [shared, Std.TreeMap.getElem?_erase, same]
      · simp [Fin.val_inj, shared, same]

end Roster

end TierSched
