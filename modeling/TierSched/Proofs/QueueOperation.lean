import TierSched.Proofs.Waiting

/-!
# Operations on the ready queues

The queues are changed by pushing an entry, by an attempt to take one, and by dropping the entries of
a task. Nothing is assumed about the order of these operations or about their arguments, so what holds
after every sequence of operations holds whoever uses the queues.

An entry has no identity of its own: entries with the same fields can wait in one lane. What becomes of
one of them is therefore told by its place, which is given by the entries in front of it and behind it.
`Place.follow` moves a place along with an operation. As long as the place can be followed it is a
place of the same entry in the lane, and when it cannot, the entry was at the front and was taken, or
the entries of its task were dropped.
-/

namespace TierSched

namespace ReadyQueues

/-- A call that changes the queues. -/
inductive Operation where
  | push (tier : Tier) (entry : Entry)
  | pop
  | drop (tier : Tier) (task : TaskId)
deriving DecidableEq, Repr

def perform (queues : ReadyQueues) : Operation → ReadyQueues
  | .push tier entry => queues.push tier entry
  | .pop => queues.pop.2
  | .drop tier task => (queues.drop tier task).2

def performAll (queues : ReadyQueues) (operations : List Operation) : ReadyQueues :=
  operations.foldl perform queues

theorem performAll_append (queues : ReadyQueues) (earlier later : List Operation) :
    queues.performAll (earlier ++ later) = (queues.performAll earlier).performAll later :=
  List.foldl_append

theorem Consistent.perform {queues : ReadyQueues} (consistent : queues.Consistent)
    (operation : Operation) : (queues.perform operation).Consistent := by
  cases operation with
  | push tier entry => exact consistent.push tier entry
  | pop => exact consistent.of_pop rfl
  | drop tier task => exact consistent.drop tier task

theorem Consistent.performAll {queues : ReadyQueues} (consistent : queues.Consistent)
    (operations : List Operation) : (queues.performAll operations).Consistent := by
  induction operations generalizing queues with
  | nil => exact consistent
  | cons operation later ih => exact ih (consistent.perform operation)

theorem interval_of_pop {queues rest : ReadyQueues} {taken : Option (Tier × Entry)}
    (popped : queues.pop = (taken, rest)) : rest.interval = queues.interval := by
  cases taken with
  | none =>
      rw [(popFirst_eq_none popped).1]
      rfl
  | some found =>
      rcases lane_of_popFirst popped with ⟨lane, _, rfl⟩
      rfl

theorem interval_perform (queues : ReadyQueues) (operation : Operation) :
    (queues.perform operation).interval = queues.interval := by
  cases operation with
  | push tier entry => rfl
  | pop => exact interval_of_pop rfl
  | drop tier task => rfl

theorem interval_performAll (queues : ReadyQueues) (operations : List Operation) :
    (queues.performAll operations).interval = queues.interval := by
  induction operations generalizing queues with
  | nil => rfl
  | cons operation later ih => exact (ih _).trans (queues.interval_perform operation)

/-- Entries come into the queues by being pushed only. -/
theorem mem_entries_perform {queues : ReadyQueues} {operation : Operation} {tier : Tier}
    {entry : Entry} (member : entry ∈ (queues.perform operation).entries tier) :
    entry ∈ queues.entries tier ∨ operation = .push tier entry := by
  cases operation with
  | push written added =>
      change entry ∈ (queues.push written added).entries tier at member
      rw [entries_push] at member
      split at member
      · rename_i own
        subst own
        rcases List.mem_append.mp member with waited | last
        · exact Or.inl waited
        · rw [List.mem_singleton.mp last]
          exact Or.inr rfl
      · exact Or.inl member
  | pop =>
      left
      rcases popped : queues.pop with ⟨_ | ⟨source, front⟩, rest⟩
      · rw [← entries_of_pop_eq_none popped]
        rwa [perform, popped] at member
      · rw [perform, popped] at member
        rw [entries_of_pop popped]
        exact List.mem_append_right _ member
  | drop dropped task =>
      left
      change entry ∈ (queues.drop dropped task).2.entries tier at member
      rw [entries_drop] at member
      split at member
      · exact (List.mem_filter.mp member).1
      · exact member

theorem mem_entries_performAll {queues : ReadyQueues} {operations : List Operation} {tier : Tier}
    {entry : Entry} (member : entry ∈ (queues.performAll operations).entries tier) :
    entry ∈ queues.entries tier ∨ .push tier entry ∈ operations := by
  induction operations generalizing queues with
  | nil => exact Or.inl member
  | cons operation later ih =>
      rcases ih member with earlier | pushed
      · rcases mem_entries_perform earlier with waited | rfl
        · exact Or.inl waited
        · exact Or.inr List.mem_cons_self
      · exact Or.inr (List.mem_cons_of_mem _ pushed)

end ReadyQueues

open ReadyQueues (Operation)

/-- One of the entries of a lane. -/
structure Place where
  /-- The entries in front of it. -/
  ahead : List Entry
  entry : Entry
  /-- The entries behind it. -/
  behind : List Entry
deriving DecidableEq, Repr

namespace Place

def lane (place : Place) : List Entry :=
  place.ahead ++ place.entry :: place.behind

/-- The place after the front of its lane was taken, none if it was the front. -/
def advance? (place : Place) : Option Place :=
  match place.ahead with
  | [] => none
  | _ :: ahead => some { place with ahead }

/-- The place after the entries of a task were dropped from its lane, none if it was one of them. -/
def without? (place : Place) (task : TaskId) : Option Place :=
  if place.entry.task = task then none
  else
    some
      { place with
        ahead := place.ahead.filter fun entry => entry.task ≠ task
        behind := place.behind.filter fun entry => entry.task ≠ task }

/-- Where the entry at a place in the lane of a tier is after an operation, none if the operation
removed it. -/
def follow (place : Place) (queues : ReadyQueues) (tier : Tier) : Operation → Option Place
  | .push written entry =>
    some (if written = tier then { place with behind := place.behind ++ [entry] } else place)
  | .pop => if queues.pop.1.map Prod.fst = some tier then place.advance? else some place
  | .drop written task => if written = tier then place.without? task else some place

/-- Where the entry at a place in the lane of a tier is after the operations, none if one of them
removed it. -/
def followAll (place : Place) (queues : ReadyQueues) (tier : Tier) :
    List Operation → Option Place
  | [] => some place
  | operation :: later =>
    match place.follow queues tier operation with
    | none => none
    | some next => next.followAll (queues.perform operation) tier later

variable {place next : Place} {queues : ReadyQueues} {tier : Tier} {operation : Operation}

theorem advance?_eq_none_iff : place.advance? = none ↔ place.ahead = [] := by
  rcases place with ⟨_ | ⟨front, ahead⟩, entry, behind⟩
  · simp [advance?]
  · simp [advance?]

theorem advance?_eq_some (advanced : place.advance? = some next) :
    next.entry = place.entry ∧ next.ahead.length + 1 = place.ahead.length ∧
      ∃ front, place.lane = front :: next.lane := by
  rcases place with ⟨_ | ⟨front, ahead⟩, entry, behind⟩
  · contradiction
  · rw [← Option.some.inj advanced]
    exact ⟨rfl, rfl, front, rfl⟩

theorem without?_eq_none_iff {task : TaskId} :
    place.without? task = none ↔ place.entry.task = task := by
  simp [without?]

theorem without?_eq_some {task : TaskId} (kept : place.without? task = some next) :
    next.entry = place.entry ∧ next.ahead.length ≤ place.ahead.length ∧
      next.lane = place.lane.filter fun entry => entry.task ≠ task := by
  rw [without?] at kept
  split at kept
  · contradiction
  · rename_i other
    rw [← Option.some.inj kept]
    refine ⟨rfl, List.length_filter_le _ _, ?_⟩
    simp [lane, List.filter_append, other]

/-- A place that can be followed is a place of the same entry in the lane. -/
theorem lane_follow (located : place.lane = queues.entries tier)
    (followed : place.follow queues tier operation = some next) :
    next.entry = place.entry ∧ next.lane = (queues.perform operation).entries tier := by
  cases operation with
  | push written pushed =>
      simp only [follow, Option.some.injEq] at followed
      rw [ReadyQueues.perform, ReadyQueues.entries_push, ← located, ← followed]
      split
      · exact ⟨rfl, by simp [lane]⟩
      · exact ⟨rfl, rfl⟩
  | pop =>
      rcases popped : queues.pop with ⟨_ | ⟨source, front⟩, rest⟩
      · simp only [follow, popped, Option.map_none, reduceCtorEq, if_false, Option.some.injEq]
          at followed
        rw [← followed, located, ReadyQueues.perform, popped]
        exact ⟨rfl, (ReadyQueues.entries_of_pop_eq_none popped tier).symm⟩
      · have split := ReadyQueues.entries_of_pop popped tier
        simp only [follow, popped, Option.map_some, Option.some.injEq] at followed
        simp only [ReadyQueues.perform, popped]
        by_cases same : source = tier
        · rw [if_pos same] at followed
          rcases advance?_eq_some followed with ⟨entry_eq, _, taken, lane_eq⟩
          rw [if_pos same, ← located, lane_eq] at split
          exact ⟨entry_eq, (List.cons.inj split).2⟩
        · rw [if_neg same] at followed split
          rw [← Option.some.inj followed, located]
          exact ⟨rfl, split⟩
  | drop written task =>
      simp only [follow] at followed
      rw [ReadyQueues.perform, ReadyQueues.entries_drop, ← located]
      split at followed
      · rename_i same
        rcases without?_eq_some followed with ⟨entry_eq, _, lane_eq⟩
        rw [if_pos same]
        exact ⟨entry_eq, lane_eq⟩
      · rename_i different
        rw [if_neg different, ← Option.some.inj followed]
        exact ⟨rfl, rfl⟩

/-- A place that cannot be followed was the front that an attempt took, or its task was dropped. -/
theorem removed_of_follow (located : place.lane = queues.entries tier)
    (removed : place.follow queues tier operation = none) :
    (operation = .pop ∧ place.ahead = [] ∧ queues.pop.1 = some (tier, place.entry)) ∨
      operation = .drop tier place.entry.task := by
  cases operation with
  | push written pushed => contradiction
  | pop =>
      rcases popped : queues.pop with ⟨_ | ⟨source, front⟩, rest⟩
      · simp [follow, popped] at removed
      · simp only [follow, popped, Option.map_some, Option.some.injEq] at removed
        split at removed
        · rename_i same
          have split := ReadyQueues.entries_of_pop popped tier
          rw [advance?_eq_none_iff] at removed
          rw [if_pos same, ← located, lane, removed] at split
          refine Or.inl ⟨rfl, removed, ?_⟩
          rw [same, (List.cons.inj split).1]
        · contradiction
  | drop written task =>
      simp only [follow] at removed
      split at removed
      · rename_i same
        rw [same, without?_eq_none_iff.mp removed]
        exact Or.inr rfl
      · contradiction

theorem lane_followAll {operations : List Operation} (located : place.lane = queues.entries tier)
    (followed : place.followAll queues tier operations = some next) :
    next.entry = place.entry ∧ next.lane = (queues.performAll operations).entries tier := by
  induction operations generalizing place queues with
  | nil =>
      rw [← Option.some.inj followed]
      exact ⟨rfl, located⟩
  | cons operation later ih =>
      rw [followAll] at followed
      split at followed
      · contradiction
      · rename_i moved movedEq
        rcases lane_follow located movedEq with ⟨entry_eq, movedLocated⟩
        rcases ih movedLocated followed with ⟨lastEntry_eq, lastLocated⟩
        exact ⟨lastEntry_eq.trans entry_eq, lastLocated⟩

theorem removed_of_followAll {operations : List Operation}
    (gone : place.followAll queues tier operations = none) :
    ∃ earlier operation later last, operations = earlier ++ operation :: later ∧
      place.followAll queues tier earlier = some last ∧
        last.follow (queues.performAll earlier) tier operation = none := by
  induction operations generalizing place queues with
  | nil => contradiction
  | cons operation later ih =>
      cases followed : place.follow queues tier operation with
      | none => exact ⟨[], operation, later, place, rfl, rfl, followed⟩
      | some next =>
          simp only [followAll, followed] at gone
          rcases ih gone with ⟨earlier, removing, rest, last, rfl, followedAll, removed⟩
          refine ⟨operation :: earlier, removing, rest, last, rfl, ?_, removed⟩
          simp only [followAll, followed]
          exact followedAll

theorem followAll_isSome {operations : List Operation} (located : place.lane = queues.entries tier)
    (kept : ∀ operation ∈ operations, operation ≠ .pop ∧ operation ≠ .drop tier place.entry.task) :
    ∃ next, place.followAll queues tier operations = some next := by
  cases followed : place.followAll queues tier operations with
  | some next => exact ⟨next, rfl⟩
  | none =>
      exfalso
      rcases removed_of_followAll followed with
        ⟨earlier, operation, later, last, rfl, followedEarlier, removed⟩
      rcases kept operation (by simp) with ⟨notTaken, notDropped⟩
      rcases lane_followAll located followedEarlier with ⟨entry_eq, lastLocated⟩
      rcases removed_of_follow lastLocated removed with ⟨taken, _⟩ | dropped
      · exact notTaken taken
      · rw [entry_eq] at dropped
        exact notDropped dropped

end Place

end TierSched
