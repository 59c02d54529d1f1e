import TierSched.Queue.Lane
import TierSched.Tier.Table

/-!
# The ready queues

One lane for each tier and a counter of the attempts to take an entry. Attempts serve the tiers in
strict priority order, except that every attempt whose number is a multiple of the interval looks at
the two lowest tiers first, so that they are not passed over for ever. The counter is a word and
starts again from zero after the largest one.
-/

namespace TierSched

/-- The lanes of all tiers. -/
structure ReadyQueues where
  lanes : Tier.Table Lane
  /-- The number of attempts to take an entry. -/
  attempts : UInt64
  /-- Attempts whose number is a multiple of the interval serve the low tiers first. -/
  interval : UInt64
  interval_ne_zero : interval ≠ 0
deriving DecidableEq, Repr

namespace ReadyQueues

/-- The order of service that looks at the two lowest tiers first. -/
def lowTiersFirst : List Tier :=
  [.background, .batch, .criticalLatency, .realtime, .critical, .gaming, .interactive]

/-- Empty queues; an interval of zero counts as one. -/
def empty (interval : UInt64) : ReadyQueues where
  lanes := .replicate {}
  attempts := 0
  interval := if interval = 0 then 1 else interval
  interval_ne_zero := by split <;> simp_all

/-- The lane of a tier. -/
def lane (queues : ReadyQueues) (tier : Tier) : Lane :=
  queues.lanes.get tier

/-- The entries that wait in a tier, from the front to the back. -/
def entries (queues : ReadyQueues) (tier : Tier) : List Entry :=
  (queues.lane tier).entries

/-- The queues with the lane of one tier replaced. -/
def setLane (queues : ReadyQueues) (tier : Tier) (lane : Lane) : ReadyQueues :=
  { queues with lanes := queues.lanes.set tier lane }

/-- Adds an entry at the back of the lane of a tier. -/
def push (queues : ReadyQueues) (tier : Tier) (entry : Entry) : ReadyQueues :=
  queues.setLane tier ((queues.lane tier).push entry)

/-- Drops all entries of a task from the lane of a tier and tells whether there were any. -/
def drop (queues : ReadyQueues) (tier : Tier) (task : TaskId) : Bool × ReadyQueues :=
  let (found, lane) := (queues.lane tier).drop task
  (found, queues.setLane tier lane)

/-- The queues with one more attempt counted. -/
def advance (queues : ReadyQueues) : ReadyQueues :=
  { queues with attempts := queues.attempts + 1 }

/-- The order in which the latest attempt serves the tiers. -/
def order (queues : ReadyQueues) : List Tier :=
  if queues.attempts % queues.interval = 0 then lowTiersFirst else Tier.all

/-- Takes the entry at the front of the first lane that has one. -/
def popFirst (queues : ReadyQueues) : List Tier → Option (Tier × Entry) × ReadyQueues
  | [] => (none, queues)
  | tier :: others =>
    match (queues.lane tier).pop? with
    | none => queues.popFirst others
    | some (entry, lane) => (some (tier, entry), queues.setLane tier lane)

/-- Makes one attempt to take an entry. -/
def pop (queues : ReadyQueues) : Option (Tier × Entry) × ReadyQueues :=
  queues.advance.popFirst queues.advance.order

/-- The recorded length of the lane of a tier. -/
def length (queues : ReadyQueues) (tier : Tier) : Nat :=
  (queues.lane tier).length

/-- The recorded length of all lanes together. -/
def total (queues : ReadyQueues) : Nat :=
  (Tier.all.map queues.length).foldl (· + ·) 0

/-- Whether all recorded lengths are zero. -/
def isEmpty (queues : ReadyQueues) : Bool :=
  queues.total == 0

/-- The number of entries in all lanes together. -/
def weight (queues : ReadyQueues) : Nat :=
  (Tier.all.map fun tier => (queues.entries tier).length).foldl (· + ·) 0

@[simp]
theorem entries_empty (interval : UInt64) (tier : Tier) : (empty interval).entries tier = [] := by
  simp [empty, entries, lane]

theorem entries_setLane (queues : ReadyQueues) (written read : Tier) (lane : Lane) :
    (queues.setLane written lane).entries read =
      if written = read then lane.entries else queues.entries read := by
  simp only [entries, ReadyQueues.lane, setLane, Tier.Table.get_set]
  split <;> rfl

theorem entries_push (queues : ReadyQueues) (written read : Tier) (entry : Entry) :
    (queues.push written entry).entries read =
      if written = read then queues.entries read ++ [entry] else queues.entries read := by
  rw [push, entries_setLane]
  split
  · subst written
    rfl
  · rfl

theorem entries_drop (queues : ReadyQueues) (written read : Tier) (task : TaskId) :
    (queues.drop written task).2.entries read =
      if written = read then (queues.entries read).filter fun entry => entry.task ≠ task
      else queues.entries read := by
  simp only [drop, entries_setLane]
  split
  · subst written
    rfl
  · rfl

/-- A lane that loses its front entry lightens the queues by one. -/
theorem weight_setLane {queues : ReadyQueues} {tier : Tier} {lane : Lane} {entry : Entry}
    (front : queues.entries tier = entry :: lane.entries) :
    (queues.setLane tier lane).weight + 1 = queues.weight := by
  have shorter : (queues.entries tier).length = lane.entries.length + 1 := by simp [front]
  simp only [weight, Tier.all, List.map_cons, List.map_nil, List.foldl_cons, List.foldl_nil,
    entries_setLane]
  cases tier <;> simp [shorter] <;> omega

theorem weight_popFirst {queues rest : ReadyQueues} {order : List Tier} {tier : Tier} {entry : Entry}
    (popped : queues.popFirst order = (some (tier, entry), rest)) :
    rest.weight + 1 = queues.weight := by
  induction order with
  | nil => simp [popFirst] at popped
  | cons first others ih =>
    unfold popFirst at popped
    split at popped
    · exact ih popped
    · rename_i front lane taken
      simp only [Prod.mk.injEq, Option.some.injEq] at popped
      obtain ⟨⟨rfl, rfl⟩, rfl⟩ := popped
      exact weight_setLane (Lane.entries_of_pop? taken)

/-- A successful attempt takes exactly one entry. -/
theorem weight_pop {queues rest : ReadyQueues} {tier : Tier} {entry : Entry}
    (popped : queues.pop = (some (tier, entry), rest)) : rest.weight + 1 = queues.weight :=
  have same : queues.advance.weight = queues.weight := rfl
  same ▸ weight_popFirst popped

end ReadyQueues

end TierSched
