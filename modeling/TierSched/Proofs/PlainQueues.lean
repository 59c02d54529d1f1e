import Mathlib.Logic.Function.Basic
import TierSched.Proofs.QueueBalance

/-!
# The ready queues as plain lists

A user of the queues pushes entries, makes attempts to take one, drops the entries of a task and asks
for lengths. `PlainQueues` answers all this from seven lists alone: it records no lengths, and an
attempt takes the front of the first list that is not empty. `ReadyQueues.Mirrors` relates the two and
is kept by every call, so no user can tell them apart.
-/

namespace TierSched

open ReadyQueues (Operation)

/-- What a user can ask of the queues. -/
inductive QueueCall where
  | change (operation : Operation)
  | length (tier : Tier)
  | total
  | isEmpty
deriving DecidableEq, Repr

/-- What a call is answered with. -/
inductive QueueAnswer where
  | done
  | taken (found : Option (Tier × Entry))
  | dropped (found : Bool)
  | number (number : Nat)
  | verdict (holds : Bool)
deriving DecidableEq, Repr

/-- Makes calls one after the other; returns the answers, and the queues afterwards. -/
def QueueCall.serveAll {Queues : Type} (serve : Queues → QueueCall → QueueAnswer × Queues)
    (queues : Queues) : List QueueCall → List QueueAnswer × Queues
  | [] => ([], queues)
  | call :: later =>
    let served := serve queues call
    let rest := serveAll serve served.2 later
    (served.1 :: rest.1, rest.2)

/-- The answer of the queues to a call, and the queues after it. -/
def ReadyQueues.serve (queues : ReadyQueues) : QueueCall → QueueAnswer × ReadyQueues
  | .change (.push tier entry) => (.done, queues.push tier entry)
  | .change .pop => (.taken queues.pop.1, queues.pop.2)
  | .change (.drop tier task) =>
    (.dropped (queues.drop tier task).1, (queues.drop tier task).2)
  | .length tier => (.number (queues.length tier), queues)
  | .total => (.number queues.total, queues)
  | .isEmpty => (.verdict queues.isEmpty, queues)

/-- Takes the entry at the front, if there is one, without looking at the recorded length. -/
def Lane.takeFront? (lane : Lane) : Option (Entry × Lane) :=
  match lane.entries with
  | [] => none
  | entry :: others => some (entry, ofEntries others)

/-- One list for each tier, and what decides about the order of service. -/
structure PlainQueues where
  lists : Tier → List Entry
  attempts : UInt64
  interval : UInt64

namespace PlainQueues

def empty (interval : UInt64) : PlainQueues where
  lists _ := []
  attempts := 0
  interval := if interval = 0 then 1 else interval

def write (queues : PlainQueues) (tier : Tier) (list : List Entry) : PlainQueues :=
  { queues with lists := Function.update queues.lists tier list }

/-- The lists with one more attempt counted. -/
def advance (queues : PlainQueues) : PlainQueues :=
  { queues with attempts := queues.attempts + 1 }

/-- The tiers in the order in which the latest attempt looks at them. -/
def order (queues : PlainQueues) : List Tier :=
  if queues.attempts % queues.interval = 0 then ReadyQueues.lowTiersFirst else Tier.all

/-- The front of the first list that has one. -/
def front? (queues : PlainQueues) : Option (Tier × Entry) :=
  queues.order.findSome? fun tier => (queues.lists tier).head?.map fun entry => (tier, entry)

/-- The answer to a call, and the lists after it. -/
def serve (queues : PlainQueues) : QueueCall → QueueAnswer × PlainQueues
  | .change (.push tier entry) => (.done, queues.write tier (queues.lists tier ++ [entry]))
  | .change .pop =>
    match queues.advance.front? with
    | none => (.taken none, queues.advance)
    | some (tier, entry) =>
      (.taken (some (tier, entry)), queues.advance.write tier (queues.lists tier).tail)
  | .change (.drop tier task) =>
    (.dropped ((queues.lists tier).any fun entry => entry.task = task),
      queues.write tier ((queues.lists tier).filter fun entry => entry.task ≠ task))
  | .length tier => (.number (queues.lists tier).length, queues)
  | .total => (.number (Tier.all.map fun tier => (queues.lists tier).length).sum, queues)
  | .isEmpty => (.verdict (Tier.all.all fun tier => (queues.lists tier).isEmpty), queues)

theorem lists_write (queues : PlainQueues) (written read : Tier) (list : List Entry) :
    (queues.write written list).lists read =
      if written = read then list else queues.lists read := by
  simp only [write, Function.update_apply, eq_comm]

end PlainQueues

namespace ReadyQueues

/-- The lanes hold the lists and have recorded their lengths, and both sides count alike. -/
structure Mirrors (queues : ReadyQueues) (plain : PlainQueues) : Prop where
  consistent : queues.Consistent
  entries_eq : ∀ tier, queues.entries tier = plain.lists tier
  attempts_eq : queues.attempts = plain.attempts
  interval_eq : queues.interval = plain.interval

theorem mirrors_empty (interval : UInt64) : (empty interval).Mirrors (.empty interval) where
  consistent := consistent_empty interval
  entries_eq tier := entries_empty interval tier
  attempts_eq := rfl
  interval_eq := rfl

/-- The recorded lengths agree with the entries, so a lane gives out its front whenever it has one. -/
theorem Consistent.pop?_eq {queues : ReadyQueues} (consistent : queues.Consistent) (tier : Tier) :
    (queues.lane tier).pop?.map Prod.fst = (queues.entries tier).head? := by
  rw [Lane.pop?_of_consistent (consistent tier), entries]
  cases (queues.lane tier).entries with
  | nil => rfl
  | cons entry others => rfl

theorem Consistent.popFirst_fst {queues : ReadyQueues} (consistent : queues.Consistent)
    (order : List Tier) :
    (queues.popFirst order).1 =
      order.findSome? fun tier => (queues.entries tier).head?.map fun entry => (tier, entry) := by
  induction order with
  | nil => rfl
  | cons tier others ih =>
      have front := consistent.pop?_eq tier
      rw [popFirst, List.findSome?_cons]
      cases popped : (queues.lane tier).pop? with
      | none =>
          rw [popped] at front
          rw [← front]
          exact ih
      | some found =>
          rw [popped] at front
          rw [← front]
          rfl

theorem drop_fst (queues : ReadyQueues) (tier : Tier) (task : TaskId) :
    (queues.drop tier task).1 = (queues.entries tier).any fun entry => entry.task = task := by
  have same_length : ((queues.entries tier).filter fun entry => entry.task ≠ task).length =
      (queues.entries tier).length ↔ ∀ entry ∈ queues.entries tier, entry.task ≠ task := by
    simp only [List.length_filter_eq_length_iff, decide_eq_true_eq]
  change (_ != _) = _
  rw [Bool.eq_iff_iff, bne_iff_ne, Ne, List.any_eq_true]
  change ¬((queues.entries tier).filter fun entry => entry.task ≠ task).length =
      (queues.entries tier).length ↔ _
  rw [same_length]
  simp

namespace Mirrors

variable {queues : ReadyQueues} {plain : PlainQueues}

theorem push (mirrors : queues.Mirrors plain) (tier : Tier) (entry : Entry) :
    (queues.push tier entry).Mirrors (plain.write tier (plain.lists tier ++ [entry])) where
  consistent := mirrors.consistent.push tier entry
  entries_eq read := by
    rw [entries_push, PlainQueues.lists_write, ← mirrors.entries_eq, ← mirrors.entries_eq]
    by_cases same : tier = read
    · rw [if_pos same, if_pos same, same]
    · rw [if_neg same, if_neg same]
  attempts_eq := mirrors.attempts_eq
  interval_eq := mirrors.interval_eq

theorem drop (mirrors : queues.Mirrors plain) (tier : Tier) (task : TaskId) :
    (queues.drop tier task).2.Mirrors
      (plain.write tier ((plain.lists tier).filter fun entry => entry.task ≠ task)) where
  consistent := mirrors.consistent.drop tier task
  entries_eq read := by
    rw [entries_drop, PlainQueues.lists_write, ← mirrors.entries_eq, ← mirrors.entries_eq]
    by_cases same : tier = read
    · rw [if_pos same, if_pos same, same]
    · rw [if_neg same, if_neg same]
  attempts_eq := mirrors.attempts_eq
  interval_eq := mirrors.interval_eq

/-- Both sides count the attempt and look for a front in the same order. -/
theorem front?_eq (mirrors : queues.Mirrors plain) :
    queues.pop.1 = plain.advance.front? := by
  have order_eq : queues.advance.order = plain.advance.order := by
    rw [order, PlainQueues.order]
    change (if (queues.attempts + 1) % queues.interval = 0 then _ else _) = _
    rw [mirrors.attempts_eq, mirrors.interval_eq]
    rfl
  have entries_eq : queues.advance.entries = plain.lists := funext mirrors.entries_eq
  have consistent : queues.advance.Consistent := mirrors.consistent
  rw [pop, consistent.popFirst_fst, PlainQueues.front?, order_eq, entries_eq]
  rfl

theorem pop (mirrors : queues.Mirrors plain) :
    (queues.serve (.change .pop)).1 = (plain.serve (.change .pop)).1 ∧
      (queues.serve (.change .pop)).2.Mirrors (plain.serve (.change .pop)).2 := by
  have front_eq := mirrors.front?_eq
  rcases popped : queues.pop with ⟨taken, rest⟩
  rw [popped] at front_eq
  have attempts_eq : rest.attempts = plain.attempts + 1 :=
    (attempts_of_pop popped).trans (by rw [mirrors.attempts_eq])
  have interval_eq : rest.interval = plain.interval :=
    (interval_of_pop popped).trans mirrors.interval_eq
  simp only [ReadyQueues.serve, PlainQueues.serve, popped]
  cases taken with
  | none =>
      rw [← front_eq]
      refine ⟨rfl, mirrors.consistent.of_pop popped, ?_, attempts_eq, interval_eq⟩
      intro read
      rw [entries_of_pop_eq_none popped, mirrors.entries_eq]
      rfl
  | some found =>
      rw [← front_eq]
      refine ⟨rfl, mirrors.consistent.of_pop popped, ?_, attempts_eq, interval_eq⟩
      intro read
      have front := entries_of_pop popped read
      rw [mirrors.entries_eq] at front
      rw [PlainQueues.lists_write]
      by_cases same : found.1 = read
      · rw [if_pos same] at front ⊢
        rw [same]
        change rest.entries read = (plain.lists read).tail
        rw [front]
        rfl
      · rw [if_neg same] at front ⊢
        exact front.symm

theorem length_eq (mirrors : queues.Mirrors plain) (tier : Tier) :
    queues.length tier = (plain.lists tier).length := by
  rw [← mirrors.entries_eq]
  exact mirrors.consistent tier

theorem total_eq (mirrors : queues.Mirrors plain) :
    queues.total = (Tier.all.map fun tier => (plain.lists tier).length).sum := by
  rw [total, funext mirrors.length_eq, List.sum_eq_foldl]

theorem isEmpty_eq (mirrors : queues.Mirrors plain) :
    queues.isEmpty = Tier.all.all fun tier => (plain.lists tier).isEmpty := by
  rw [isEmpty, mirrors.total_eq, Bool.eq_iff_iff, beq_iff_eq, List.all_eq_true,
    List.sum_eq_zero_iff]
  simp

/-- Both sides answer a call alike and go on to mirror one another. -/
theorem serve (mirrors : queues.Mirrors plain) (call : QueueCall) :
    (queues.serve call).1 = (plain.serve call).1 ∧
      (queues.serve call).2.Mirrors (plain.serve call).2 := by
  cases call with
  | change operation =>
      cases operation with
      | push tier entry => exact ⟨rfl, mirrors.push tier entry⟩
      | pop => exact mirrors.pop
      | drop tier task =>
          refine ⟨?_, mirrors.drop tier task⟩
          simp only [ReadyQueues.serve, PlainQueues.serve, drop_fst, mirrors.entries_eq]
  | length tier => exact ⟨congrArg QueueAnswer.number (mirrors.length_eq tier), mirrors⟩
  | total => exact ⟨congrArg QueueAnswer.number mirrors.total_eq, mirrors⟩
  | isEmpty => exact ⟨congrArg QueueAnswer.verdict mirrors.isEmpty_eq, mirrors⟩

/-- However many calls are made, the answers are the same on both sides. -/
theorem serveAll (mirrors : queues.Mirrors plain) (calls : List QueueCall) :
    (QueueCall.serveAll ReadyQueues.serve queues calls).1 =
        (QueueCall.serveAll PlainQueues.serve plain calls).1 ∧
      (QueueCall.serveAll ReadyQueues.serve queues calls).2.Mirrors
        (QueueCall.serveAll PlainQueues.serve plain calls).2 := by
  induction calls generalizing queues plain with
  | nil => exact ⟨rfl, mirrors⟩
  | cons call later ih =>
      rcases mirrors.serve call with ⟨answer_eq, next⟩
      rcases ih next with ⟨answers_eq, last⟩
      refine ⟨?_, last⟩
      simp only [QueueCall.serveAll, answer_eq, answers_eq]

end Mirrors

end ReadyQueues

end TierSched
