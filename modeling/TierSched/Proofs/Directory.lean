import Mathlib.Algebra.BigOperators.Fin
import Mathlib.Data.Finmap
import TierSched.Proofs.Callback
import TierSched.Proofs.Draw
import TierSched.Proofs.Execution

/-!
# The roster as one finite map

The roster spreads the profiles over 16 shards and counts them apart. A user of the roster sees none of
this: whatever is asked, and in whatever order, the answers are those of a `Directory`, which is one
finite map with a bound on the number of its keys.

`Roster.Represents` relates a roster to a directory. Each request keeps the relation and is answered
alike by both sides, so a sequence of requests is, too. An event changes the roster by requests only,
hence the roster of every execution represents some directory and is never more than full.
-/

namespace TierSched

/-- A call on a store of profiles. -/
inductive Request : Type 1 where
  | update {Reply : Type} (task : TaskId) (change : Profile → Reply × Profile)
  | updateOrInsert {Reply : Type} (task : TaskId) (fresh : Profile)
    (change : Profile → Reply × Profile)
  | get (task : TaskId)
  | remove (task : TaskId)
  | count

namespace Request

/-- What a request is answered with. -/
def Answer : Request → Type
  | @update Reply _ _ => Option Reply
  | @updateOrInsert Reply _ _ _ => Except Fault Reply
  | get _ => Option Profile
  | remove _ => Option Profile
  | count => Nat

/-- Makes requests one after the other; returns them with their answers, and the store afterwards. -/
def serveAll {Store : Type} (serve : Store → (request : Request) → request.Answer × Store)
    (store : Store) : List Request → List (Σ request : Request, request.Answer) × Store
  | [] => ([], store)
  | request :: later =>
    let served := serve store request
    let rest := serveAll serve served.2 later
    (⟨request, served.1⟩ :: rest.1, rest.2)

theorem serveAll_append {Store : Type}
    (serve : Store → (request : Request) → request.Answer × Store) (store : Store)
    (earlier later : List Request) :
    (serveAll serve store (earlier ++ later)).2 =
      (serveAll serve (serveAll serve store earlier).2 later).2 := by
  induction earlier generalizing store with
  | nil => rfl
  | cons request others ih => exact ih _

end Request

/-- A finite map from tasks to profiles with a bound on the number of its keys. -/
structure Directory where
  profiles : Finmap fun _ : TaskId => Profile
  capacity : Nat

namespace Directory

def empty (capacity : Nat) : Directory where
  profiles := ∅
  capacity

def write (directory : Directory) (task : TaskId) (profile : Profile) : Directory :=
  { directory with profiles := directory.profiles.insert task profile }

/-- The directory after a request, and the answer. A new key is refused if there is no room. -/
def serve (directory : Directory) : (request : Request) → request.Answer × Directory
  | .update task change =>
    match directory.profiles.lookup task with
    | some profile => (some (change profile).1, directory.write task (change profile).2)
    | none => (none, directory)
  | .updateOrInsert task fresh change =>
    match directory.profiles.lookup task with
    | some profile => (.ok (change profile).1, directory.write task (change profile).2)
    | none =>
      if directory.profiles.keys.card < directory.capacity then
        (.ok (change fresh).1, directory.write task (change fresh).2)
      else
        (.error (.rosterFull directory.capacity), directory)
  | .get task => (directory.profiles.lookup task, directory)
  | .remove task =>
    (directory.profiles.lookup task,
      { directory with profiles := directory.profiles.erase task })
  | .count => (directory.profiles.keys.card, directory)

theorem lookup_write (directory : Directory) (written read : TaskId) (profile : Profile) :
    (directory.write written profile).profiles.lookup read =
      if written = read then some profile else directory.profiles.lookup read := by
  by_cases same : written = read
  · subst same
    rw [if_pos rfl]
    exact Finmap.lookup_insert directory.profiles
  · rw [if_neg same]
    exact Finmap.lookup_insert_of_ne directory.profiles (Ne.symm same)

theorem keys_write (directory : Directory) (task : TaskId) (profile : Profile) :
    (directory.write task profile).profiles.keys = insert task directory.profiles.keys := by
  ext read
  simp only [write, Finmap.mem_keys, Finmap.mem_insert, Finset.mem_insert]

theorem card_write_present {directory : Directory} {task : TaskId} {found : Profile}
    (present : directory.profiles.lookup task = some found) (profile : Profile) :
    (directory.write task profile).profiles.keys.card = directory.profiles.keys.card := by
  rw [keys_write, Finset.insert_eq_of_mem]
  rw [Finmap.mem_keys, ← Finmap.lookup_isSome, present]
  rfl

theorem card_write_missing {directory : Directory} {task : TaskId}
    (missing : directory.profiles.lookup task = none) (profile : Profile) :
    (directory.write task profile).profiles.keys.card = directory.profiles.keys.card + 1 := by
  rw [keys_write, Finset.card_insert_of_notMem]
  rwa [Finmap.mem_keys, ← Finmap.lookup_eq_none]

theorem card_erase_present {directory : Directory} {task : TaskId} {found : Profile}
    (present : directory.profiles.lookup task = some found) :
    (directory.profiles.erase task).keys.card = directory.profiles.keys.card - 1 := by
  rw [Finmap.keys_erase, Finset.card_erase_of_mem]
  rw [Finmap.mem_keys, ← Finmap.lookup_isSome, present]
  rfl

theorem erase_missing {directory : Directory} {task : TaskId}
    (missing : directory.profiles.lookup task = none) :
    directory.profiles.erase task = directory.profiles := by
  apply Finmap.ext_lookup
  intro read
  by_cases same : read = task
  · rw [same, Finmap.lookup_erase, missing]
  · rw [Finmap.lookup_erase_ne same]

end Directory

namespace Roster

/-- The roster after a request, and the answer. -/
def serve (roster : Roster) : (request : Request) → request.Answer × Roster
  | .update task change => roster.update task change
  | .updateOrInsert task fresh change => roster.updateOrInsert task fresh change
  | .get task => (roster.get? task, roster)
  | .remove task => roster.remove task
  | .count => (roster.count, roster)

/-- The number of profiles in all shards together. -/
def stored (shards : Vector (Std.TreeMap TaskId Profile) shardCount) : Nat :=
  ∑ shard : Fin shardCount, shards[shard].size

theorem stored_empty (capacity : Nat) : stored (empty capacity).shards = 0 := by
  simp [stored, empty]

/-- Only the shard that is written contributes a different number of profiles. -/
theorem stored_set (shards : Vector (Std.TreeMap TaskId Profile) shardCount)
    (shard : Fin shardCount) (written : Std.TreeMap TaskId Profile) :
    stored (shards.set shard written) + shards[shard].size = stored shards + written.size := by
  have others : ∀ read ∈ Finset.univ.erase shard,
      (shards.set shard written)[read].size = shards[read].size := by
    intro read member
    have different : shard.val ≠ read.val :=
      fun same => (Finset.mem_erase.mp member).1 (Fin.ext same.symm)
    rw [Fin.getElem_fin, Fin.getElem_fin, Vector.getElem_set_ne _ _ different]
  have here : (shards.set shard written)[shard].size = written.size := by
    rw [Fin.getElem_fin, Vector.getElem_set_self]
  have before := Finset.add_sum_erase Finset.univ
    (fun read : Fin shardCount => shards[read].size) (Finset.mem_univ shard)
  have after := Finset.add_sum_erase Finset.univ
    (fun read : Fin shardCount => (shards.set shard written)[read].size) (Finset.mem_univ shard)
  rw [Finset.sum_congr rfl others] at after
  simp only [stored]
  omega

theorem stored_put (roster : Roster) (task : TaskId) (profile : Profile) :
    stored (roster.put task profile).shards =
      stored roster.shards + if (roster.get? task).isSome then 0 else 1 := by
  have written := stored_set roster.shards (shardOf task)
    (roster.shards[shardOf task].insert task profile)
  rw [Std.TreeMap.size_insert, Std.TreeMap.contains_eq_isSome_getElem?] at written
  change stored (roster.shards.set _ _) =
    _ + if roster.shards[shardOf task][task]?.isSome then 0 else 1
  split at written
  · rename_i present
    rw [if_pos present]
    omega
  · rename_i missing
    rw [if_neg missing]
    omega

theorem stored_remove {roster : Roster} {task : TaskId} {found : Profile}
    (present : roster.get? task = some found) :
    stored (roster.remove task).2.shards + 1 = stored roster.shards := by
  have contained : roster.shards[shardOf task].contains task = true := by
    rw [Std.TreeMap.contains_eq_isSome_getElem?]
    exact congrArg Option.isSome present
  have inhabited := Std.TreeMap.isEmpty_eq_false_of_contains contained
  rw [Std.TreeMap.isEmpty_eq_size_eq_zero, beq_eq_false_iff_ne] at inhabited
  have written := stored_set roster.shards (shardOf task) (roster.shards[shardOf task].erase task)
  rw [Std.TreeMap.size_erase, if_pos contained] at written
  simp only [remove, present]
  omega

@[simp]
theorem count_put (roster : Roster) (task : TaskId) (profile : Profile) :
    (roster.put task profile).count = roster.count := rfl

/-- The roster and the directory hold the same profiles, and the roster has counted them rightly. -/
structure Represents (roster : Roster) (directory : Directory) : Prop where
  get?_eq : ∀ task, roster.get? task = directory.profiles.lookup task
  count_eq : roster.count = directory.profiles.keys.card
  stored_eq : stored roster.shards = roster.count
  capacity_eq : roster.capacity = directory.capacity
  within : directory.profiles.keys.card ≤ directory.capacity

theorem represents_empty (capacity : Nat) :
    (empty capacity).Represents (Directory.empty capacity) where
  get?_eq task := get?_empty capacity task
  count_eq := rfl
  stored_eq := stored_empty capacity
  capacity_eq := rfl
  within := Nat.zero_le capacity

namespace Represents

variable {roster : Roster} {directory : Directory} {task : TaskId} {found : Profile}

theorem put_present (represents : roster.Represents directory)
    (present : directory.profiles.lookup task = some found) (profile : Profile) :
    (roster.put task profile).Represents (directory.write task profile) where
  get?_eq read := by
    rw [get?_put, Directory.lookup_write, represents.get?_eq]
  count_eq := by
    rw [Directory.card_write_present present]
    exact represents.count_eq
  stored_eq := by
    simp [stored_put, represents.get?_eq, present, represents.stored_eq]
  capacity_eq := represents.capacity_eq
  within := by
    rw [Directory.card_write_present present]
    exact represents.within

theorem put_missing (represents : roster.Represents directory)
    (missing : directory.profiles.lookup task = none)
    (room : directory.profiles.keys.card < directory.capacity) (profile : Profile) :
    ({ roster.put task profile with count := roster.count + 1 } : Roster).Represents
      (directory.write task profile) where
  get?_eq read := by
    rw [Directory.lookup_write, ← represents.get?_eq]
    exact get?_put roster task read profile
  count_eq := by
    rw [Directory.card_write_missing missing, ← represents.count_eq]
  stored_eq := by
    simp [stored_put, represents.get?_eq, missing, represents.stored_eq]
  capacity_eq := represents.capacity_eq
  within := by
    rw [Directory.card_write_missing missing]
    exact room

theorem remove_present (represents : roster.Represents directory)
    (present : directory.profiles.lookup task = some found) :
    (roster.remove task).2.Represents
      { directory with profiles := directory.profiles.erase task } := by
  have tracked : roster.get? task = some found := (represents.get?_eq task).trans present
  have count_eq : (roster.remove task).2.count = roster.count - 1 := by
    simp only [remove, tracked]
  refine ⟨?_, ?_, ?_, ?_, ?_⟩
  · intro read
    rw [get?_remove, represents.get?_eq]
    by_cases same : task = read
    · subst same
      rw [if_pos rfl, Finmap.lookup_erase]
    · rw [if_neg same, Finmap.lookup_erase_ne (Ne.symm same)]
  · rw [count_eq, Directory.card_erase_present present, represents.count_eq]
  · have stored_eq := stored_remove tracked
    rw [represents.stored_eq] at stored_eq
    omega
  · simp only [remove, tracked]
    exact represents.capacity_eq
  · rw [Directory.card_erase_present present]
    exact (Nat.sub_le _ _).trans represents.within

/-- The roster and the directory answer every request alike and go on to represent one another. -/
theorem serve (represents : roster.Represents directory) (request : Request) :
    (roster.serve request).1 = (directory.serve request).1 ∧
      (roster.serve request).2.Represents (directory.serve request).2 := by
  cases request with
  | update task change =>
      simp only [Roster.serve, update, Directory.serve, represents.get?_eq]
      cases present : directory.profiles.lookup task with
      | none => exact ⟨rfl, represents⟩
      | some profile => exact ⟨rfl, represents.put_present present _⟩
  | updateOrInsert task fresh change =>
      simp only [Roster.serve, updateOrInsert, Directory.serve, represents.get?_eq,
        represents.capacity_eq, represents.count_eq]
      cases lookup_eq : directory.profiles.lookup task with
      | some profile => exact ⟨rfl, represents.put_present lookup_eq _⟩
      | none =>
          by_cases room : directory.profiles.keys.card < directory.capacity
          · simp only [if_pos room, if_neg (Nat.not_le.mpr room)]
            rw [← represents.count_eq]
            exact ⟨rfl, represents.put_missing lookup_eq room _⟩
          · simp only [if_neg room, if_pos (Nat.not_lt.mp room)]
            exact ⟨rfl, represents⟩
  | get task => exact ⟨represents.get?_eq task, represents⟩
  | remove task =>
      simp only [Roster.serve, Directory.serve]
      cases lookup_eq : directory.profiles.lookup task with
      | none =>
          have untracked := (represents.get?_eq task).trans lookup_eq
          rw [Directory.erase_missing lookup_eq]
          simp only [remove, untracked]
          exact ⟨rfl, represents⟩
      | some profile =>
          have tracked := (represents.get?_eq task).trans lookup_eq
          refine ⟨?_, represents.remove_present lookup_eq⟩
          rw [remove, tracked]
  | count => exact ⟨represents.count_eq, represents⟩

/-- However many requests are made, the answers are the same on both sides. -/
theorem serveAll (represents : roster.Represents directory) (requests : List Request) :
    (Request.serveAll Roster.serve roster requests).1 =
        (Request.serveAll Directory.serve directory requests).1 ∧
      (Request.serveAll Roster.serve roster requests).2.Represents
        (Request.serveAll Directory.serve directory requests).2 := by
  induction requests generalizing roster directory with
  | nil => exact ⟨rfl, represents⟩
  | cons request later ih =>
      rcases represents.serve request with ⟨answer_eq, next⟩
      rcases ih next with ⟨answers_eq, last⟩
      refine ⟨?_, last⟩
      simp only [Request.serveAll, answer_eq, answers_eq]

end Represents

/-- Requests alone lead from one roster to the other. -/
def Becomes (roster next : Roster) : Prop :=
  ∃ requests, (Request.serveAll serve roster requests).2 = next

namespace Becomes

theorem refl (roster : Roster) : roster.Becomes roster :=
  ⟨[], rfl⟩

theorem of_serve (roster : Roster) (request : Request) :
    roster.Becomes (roster.serve request).2 :=
  ⟨[request], rfl⟩

theorem trans {first second third : Roster} (early : first.Becomes second)
    (late : second.Becomes third) : first.Becomes third := by
  rcases early with ⟨earlier, rfl⟩
  rcases late with ⟨later, rfl⟩
  exact ⟨earlier ++ later, Request.serveAll_append serve first earlier later⟩

end Becomes

/-- A search claims entries, and each claim is a request. -/
theorem becomes_draw (queues : ReadyQueues) (roster : Roster) :
    roster.Becomes (draw queues roster).roster := by
  induction queues, roster using draw_induction with
  | exhausted queues roster rest popped => exact .refl roster
  | found queues roster rest tier entry popped live =>
      exact .of_serve roster (.update entry.task fun profile => profile.claim entry.generation)
  | discarded queues roster rest tier entry further popped stale ih =>
      apply Becomes.trans _ ih
      exact .of_serve roster (.update entry.task fun profile => profile.claim entry.generation)

end Roster

namespace Directory

theorem capacity_serve (directory : Directory) (request : Request) :
    (directory.serve request).2.capacity = directory.capacity := by
  cases request with
  | update task change =>
      simp only [serve]
      split <;> rfl
  | updateOrInsert task fresh change =>
      simp only [serve]
      split
      · rfl
      · split <;> rfl
  | _ => rfl

theorem capacity_serveAll (directory : Directory) (requests : List Request) :
    (Request.serveAll serve directory requests).2.capacity = directory.capacity := by
  induction requests generalizing directory with
  | nil => rfl
  | cons request later ih => exact (ih _).trans (directory.capacity_serve request)

end Directory

/-- Every event changes the roster by requests. -/
theorem Scheduler.becomes_handle (scheduler : Scheduler) (now : Nanos) (event : Event) :
    scheduler.roster.Becomes (scheduler.handle now event).scheduler.roster := by
  cases event with
  | wake task previous flags =>
      let observed := scheduler.observe task (previous.getD 0) (fun profile => profile.wake now)
        (.interactive, scheduler.config.quantum)
      have tracked : scheduler.roster.Becomes observed.scheduler.roster := by
        rw [roster_observe]
        exact .of_serve scheduler.roster
          (.updateOrInsert task scheduler.freshProfile fun profile => profile.wake now)
      apply tracked.trans
      change observed.scheduler.roster.Becomes
        (observed.scheduler.place now task previous flags _ _).scheduler.roster
      rw [roster_place]
      split
      · exact .refl _
      · exact .of_serve observed.scheduler.roster
          (.update task fun profile => ((), { profile with kickedOnWake := true }))
  | enqueue task flags =>
      change scheduler.roster.Becomes (scheduler.enqueue now task flags).scheduler.roster
      rw [roster_enqueue]
      exact .of_serve scheduler.roster
        (.updateOrInsert task scheduler.freshProfile fun profile => profile.enqueue now)
  | dispatch unit =>
      change scheduler.roster.Becomes (scheduler.dispatch unit).scheduler.roster
      rw [roster_dispatch]
      exact Roster.becomes_draw scheduler.queues scheduler.roster
  | start unit task =>
      change scheduler.roster.Becomes (scheduler.start now unit task).scheduler.roster
      rw [roster_start]
      exact .of_serve scheduler.roster
        (.updateOrInsert task scheduler.freshProfile fun profile =>
          profile.start scheduler.config.waitBudget now)
  | stop unit task requeue =>
      change scheduler.roster.Becomes (scheduler.stop now unit task requeue).scheduler.roster
      rw [roster_stop]
      exact .of_serve scheduler.roster
        (.update task fun profile => profile.stop scheduler.config now requeue)
  | tick unit task =>
      change scheduler.roster.Becomes (scheduler.tick now unit task).scheduler.roster
      rw [roster_tick]
      exact .of_serve scheduler.roster
        (.update task fun profile => profile.checkCeiling scheduler.config.runCeiling now)
  | changeIdle unit idle =>
      change scheduler.roster.Becomes (scheduler.changeIdle unit idle).scheduler.roster
      rw [roster_changeIdle]
      exact .refl scheduler.roster
  | exit task =>
      change scheduler.roster.Becomes (scheduler.exit task).scheduler.roster
      rw [roster_exit]
      exact .of_serve scheduler.roster (.remove task)

namespace Execution

theorem becomes_roster (execution : Execution) :
    (Roster.empty execution.config.capacity).Becomes execution.scheduler.roster := by
  apply execution.induction (motive := fun _ scheduler =>
    (Roster.empty execution.config.capacity).Becomes scheduler.roster)
  · exact .refl _
  · intro _ scheduler now event reached
    exact reached.trans (scheduler.becomes_handle now event)

/-- The roster of every execution represents a directory with room for as many tasks as were
configured. -/
theorem represents_directory (execution : Execution) :
    ∃ directory, directory.capacity = execution.config.capacity ∧
      execution.scheduler.roster.Represents directory := by
  rcases execution.becomes_roster with ⟨requests, roster_eq⟩
  refine ⟨_, Directory.capacity_serveAll (.empty execution.config.capacity) requests, ?_⟩
  rw [← roster_eq]
  exact ((Roster.represents_empty _).serveAll requests).2

theorem capacity_roster (execution : Execution) :
    execution.scheduler.roster.capacity = execution.config.capacity := by
  rcases execution.represents_directory with ⟨directory, capacity_eq, represents⟩
  exact represents.capacity_eq.trans capacity_eq

/-- A roster answers like a bounded finite map and counts its profiles rightly, whatever is asked of
it. No scheduler tracks more tasks than it was configured for. -/
theorem roster_refines_directory :
    (∀ capacity requests,
      let roster := Request.serveAll Roster.serve (.empty capacity) requests
      let directory := Request.serveAll Directory.serve (.empty capacity) requests
      roster.1 = directory.1 ∧
        (∀ task, roster.2.get? task = directory.2.profiles.lookup task) ∧
        roster.2.count = Roster.stored roster.2.shards ∧
        roster.2.count = directory.2.profiles.keys.card ∧
        roster.2.count ≤ capacity) ∧
    ∀ execution : Execution, execution.scheduler.taskCount ≤ execution.config.capacity := by
  refine ⟨?_, ?_⟩
  · intro capacity requests roster directory
    rcases (Roster.represents_empty capacity).serveAll requests with ⟨answers_eq, represents⟩
    refine ⟨answers_eq, represents.get?_eq, represents.stored_eq.symm, represents.count_eq, ?_⟩
    have within := represents.within
    rwa [← represents.count_eq, Directory.capacity_serveAll] at within
  · intro execution
    rcases execution.represents_directory with ⟨directory, capacity_eq, represents⟩
    have within := represents.within
    rwa [← represents.count_eq, capacity_eq] at within

end Execution

end TierSched
