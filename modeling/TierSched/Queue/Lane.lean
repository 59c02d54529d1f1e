import TierSched.Queue.Entry

/-!
# Lanes

The queue of one tier: entries leave at the front in the order in which they were pushed at the
back. The length is kept next to the entries, so that an empty lane is recognised without looking at
them; `Lane.Consistent` says that it is right, which every operation preserves.
-/

namespace TierSched

/-- A first-in, first-out queue of entries. -/
structure Lane where
  /-- The entries from the front to the back. -/
  entries : List Entry := []
  /-- The number of entries as last recorded. -/
  length : Nat := 0
deriving DecidableEq, Repr

namespace Lane

/-- The lane with the given entries. -/
def ofEntries (entries : List Entry) : Lane := ⟨entries, entries.length⟩

/-- Adds an entry at the back. -/
def push (lane : Lane) (entry : Entry) : Lane :=
  ofEntries (lane.entries ++ [entry])

/-- Takes the entry at the front, if the recorded length says that there is one. -/
def pop? (lane : Lane) : Option (Entry × Lane) :=
  if lane.length = 0 then none
  else
    match lane.entries with
    | [] => none
    | entry :: others => some (entry, ofEntries others)

/-- Drops all entries of a task and tells whether there were any. -/
def drop (lane : Lane) (task : TaskId) : Bool × Lane :=
  let kept := lane.entries.filter fun entry => entry.task ≠ task
  (kept.length != lane.entries.length, ofEntries kept)

/-- The recorded length is the number of entries. -/
def Consistent (lane : Lane) : Prop :=
  lane.length = lane.entries.length

@[simp]
theorem entries_ofEntries (entries : List Entry) : (ofEntries entries).entries = entries := rfl

theorem consistent_ofEntries (entries : List Entry) : (ofEntries entries).Consistent := rfl

@[simp]
theorem entries_push (lane : Lane) (entry : Entry) :
    (lane.push entry).entries = lane.entries ++ [entry] := rfl

@[simp]
theorem entries_drop (lane : Lane) (task : TaskId) :
    (lane.drop task).2.entries = lane.entries.filter fun entry => entry.task ≠ task := rfl

theorem entries_of_pop? {lane rest : Lane} {entry : Entry} (popped : lane.pop? = some (entry, rest)) :
    lane.entries = entry :: rest.entries := by
  unfold pop? at popped
  split at popped
  · contradiction
  · split at popped
    · contradiction
    · rename_i front others entries_eq
      simp only [Option.some.injEq, Prod.mk.injEq] at popped
      obtain ⟨rfl, rfl⟩ := popped
      simpa using entries_eq

/-- A consistent lane gives out an entry exactly if it has one. -/
theorem pop?_of_consistent {lane : Lane} (consistent : lane.Consistent) :
    lane.pop? =
      match lane.entries with
      | [] => none
      | entry :: others => some (entry, ofEntries others) := by
  unfold pop?
  unfold Consistent at consistent
  cases entries_eq : lane.entries with
  | nil => simp
  | cons entry others => simp [consistent, entries_eq]

end Lane

end TierSched
