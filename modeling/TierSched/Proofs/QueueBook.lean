import TierSched.Proofs.PlainQueues

/-!
# The book of a lane

Entries with equal fields can be pushed more than once, so what becomes of an entry is not told by its
fields. The book of a lane has one line for each push to it, in the order of the pushes. No line is ever
struck out; a line only changes from waiting to taken, when an attempt takes from the lane, or from
waiting to dropped, when its task is dropped from it.

The waiting lines are always the contents of the lane. An attempt marks the first of them, so no line is
taken behind one that waits, and the taken lines are the answers of the attempts in the order in which
they were given.
-/

namespace TierSched

open ReadyQueues (Operation)

/-- What has become of an entry that was pushed. -/
inductive Fate where
  | waiting
  | taken
  | dropped
deriving DecidableEq, Repr

/-- One push to a lane. -/
structure Line where
  entry : Entry
  fate : Fate
deriving DecidableEq, Repr

/-- The pushes to a lane, in order. -/
abbrev Book := List Line

namespace Book

/-- The entries that met a fate, in the order in which they were pushed. -/
def entriesOf (book : Book) (fate : Fate) : List Entry :=
  (book.filter fun line => line.fate = fate).map Line.entry

def push (book : Book) (entry : Entry) : Book :=
  book ++ [⟨entry, .waiting⟩]

/-- Marks the first waiting line as taken. -/
def takeFirst : Book → Book
  | [] => []
  | line :: later =>
    if line.fate = .waiting then { line with fate := .taken } :: later
    else line :: takeFirst later

/-- Marks the waiting lines of a task as dropped. -/
def dropTask (book : Book) (task : TaskId) : Book :=
  book.map fun line =>
    if line.fate = .waiting ∧ line.entry.task = task then { line with fate := .dropped } else line

/-- No line is taken behind one that waits. -/
def InOrder (book : Book) : Prop :=
  book.Pairwise fun earlier later => earlier.fate = .waiting → later.fate ≠ .taken

theorem entriesOf_cons (line : Line) (later : Book) (fate : Fate) :
    entriesOf (line :: later) fate =
      if line.fate = fate then line.entry :: later.entriesOf fate else later.entriesOf fate := by
  rw [entriesOf, List.filter_cons]
  by_cases same : line.fate = fate
  · rw [if_pos (decide_eq_true same), if_pos same]
    rfl
  · rw [if_neg (by simpa using same), if_neg same]
    rfl

theorem entriesOf_push (book : Book) (entry : Entry) (fate : Fate) :
    (book.push entry).entriesOf fate =
      book.entriesOf fate ++ if fate = .waiting then [entry] else [] := by
  rw [entriesOf, push, List.filter_append, List.map_append]
  cases fate <;> rfl

theorem map_entry_takeFirst (book : Book) :
    book.takeFirst.map Line.entry = book.map Line.entry := by
  induction book with
  | nil => rfl
  | cons line later ih =>
      rw [takeFirst]
      split
      · rfl
      · rw [List.map_cons, List.map_cons, ih]

theorem waiting_takeFirst (book : Book) :
    book.takeFirst.entriesOf .waiting = (book.entriesOf .waiting).tail := by
  induction book with
  | nil => rfl
  | cons line later ih =>
      rw [takeFirst, entriesOf_cons]
      by_cases waits : line.fate = .waiting
      · rw [if_pos waits, if_pos waits, entriesOf_cons]
        rfl
      · rw [if_neg waits, if_neg waits, entriesOf_cons, if_neg waits, ih]

theorem dropped_takeFirst (book : Book) :
    book.takeFirst.entriesOf .dropped = book.entriesOf .dropped := by
  induction book with
  | nil => rfl
  | cons line later ih =>
      rw [takeFirst, entriesOf_cons]
      by_cases waits : line.fate = .waiting
      · rw [if_pos waits, entriesOf_cons, waits]
        rfl
      · rw [if_neg waits, entriesOf_cons, ih]

/-- In a book that is in order, the line that is marked comes behind all lines taken before. -/
theorem InOrder.taken_takeFirst {book : Book} (inOrder : book.InOrder) :
    book.takeFirst.entriesOf .taken =
      book.entriesOf .taken ++ (book.entriesOf .waiting).head?.toList := by
  induction book with
  | nil => rfl
  | cons line later ih =>
      rcases List.pairwise_cons.mp inOrder with ⟨first, laterInOrder⟩
      rw [takeFirst, entriesOf_cons line, entriesOf_cons line]
      by_cases waits : line.fate = .waiting
      · have none_taken : entriesOf later .taken = [] := by
          rw [entriesOf, List.map_eq_nil_iff, List.filter_eq_nil_iff]
          intro other member
          simpa using first other member waits
        have not_taken : line.fate ≠ .taken := by simp [waits]
        rw [if_pos waits, if_pos waits, if_neg not_taken, entriesOf_cons, if_pos rfl, none_taken]
        rfl
      · rw [if_neg waits, if_neg waits, entriesOf_cons, ih laterInOrder]
        split <;> rfl

theorem InOrder.takeFirst {book : Book} (inOrder : book.InOrder) : book.takeFirst.InOrder := by
  induction book with
  | nil => exact inOrder
  | cons line later ih =>
      rcases List.pairwise_cons.mp inOrder with ⟨first, laterInOrder⟩
      rw [Book.takeFirst]
      split
      · exact List.pairwise_cons.mpr ⟨fun _ _ waits => by simp at waits, laterInOrder⟩
      · rename_i decided
        exact List.pairwise_cons.mpr
          ⟨fun _ _ waits => absurd waits decided, ih laterInOrder⟩

theorem InOrder.push {book : Book} (inOrder : book.InOrder) (entry : Entry) :
    (book.push entry).InOrder := by
  refine List.pairwise_append.mpr ⟨inOrder, List.pairwise_singleton _ _, ?_⟩
  intro earlier _ last member _
  rw [List.mem_singleton.mp member]
  exact Fate.noConfusion

theorem map_entry_dropTask (book : Book) (task : TaskId) :
    (book.dropTask task).map Line.entry = book.map Line.entry := by
  rw [dropTask, List.map_map]
  apply List.map_congr_left
  intro line _
  simp only [Function.comp_apply]
  split <;> rfl

theorem dropTask_cons (line : Line) (later : Book) (task : TaskId) :
    dropTask (line :: later) task =
      (if line.fate = .waiting ∧ line.entry.task = task then { line with fate := .dropped }
        else line) :: dropTask later task := rfl

theorem taken_dropTask (book : Book) (task : TaskId) :
    (book.dropTask task).entriesOf .taken = book.entriesOf .taken := by
  induction book with
  | nil => rfl
  | cons line later ih =>
      rw [dropTask_cons, entriesOf_cons, entriesOf_cons, ih]
      split
      · rename_i marked
        simp [marked.1]
      · rfl

theorem waiting_dropTask (book : Book) (task : TaskId) :
    (book.dropTask task).entriesOf .waiting =
      (book.entriesOf .waiting).filter fun entry => entry.task ≠ task := by
  induction book with
  | nil => rfl
  | cons line later ih =>
      rw [dropTask_cons, entriesOf_cons, entriesOf_cons, ih]
      by_cases waits : line.fate = .waiting
      · by_cases own : line.entry.task = task
        · simp [waits, own]
        · simp [waits, own]
      · simp [waits]

/-- The dropped entries are listed in the order of their pushes, not in that of the drops. -/
theorem dropped_dropTask (book : Book) (task : TaskId) :
    ((book.dropTask task).entriesOf .dropped).Perm
      (book.entriesOf .dropped ++
        (book.entriesOf .waiting).filter fun entry => entry.task = task) := by
  induction book with
  | nil => exact .refl _
  | cons line later ih =>
      rw [dropTask_cons, entriesOf_cons, entriesOf_cons line, entriesOf_cons line]
      by_cases waits : line.fate = .waiting
      · by_cases own : line.entry.task = task
        · simp only [waits, own, and_self, if_true, reduceCtorEq, if_false, decide_true,
            List.filter_cons_of_pos]
          exact (ih.cons line.entry).trans List.perm_middle.symm
        · simpa [waits, own] using ih
      · by_cases gone : line.fate = .dropped
        · simpa [gone] using ih
        · simpa [waits, gone] using ih

theorem InOrder.dropTask {book : Book} (inOrder : book.InOrder) (task : TaskId) :
    (book.dropTask task).InOrder := by
  refine List.Pairwise.map _ ?_ inOrder
  intro earlier later ordered
  split
  · exact fun waits => by simp at waits
  · split
    · exact fun _ => by simp
    · exact ordered

end Book

/-- A call, and the queues that it finds. -/
structure QueueMoment where
  queues : ReadyQueues
  call : QueueCall
deriving DecidableEq, Repr

namespace QueueMoment

variable (moment : QueueMoment) (tier : Tier)

/-- What the call is answered with. -/
def answer : QueueAnswer :=
  (moment.queues.serve moment.call).1

/-- The queues after the call. -/
def next : ReadyQueues :=
  (moment.queues.serve moment.call).2

/-- The entry that the call pushes to a lane, if any. -/
def pushed : List Entry :=
  match moment.call with
  | .change (.push written entry) => if written = tier then [entry] else []
  | _ => []

/-- The entry that the call takes from a lane and returns, if any. -/
def taken : List Entry :=
  match moment.answer with
  | .taken (some (source, entry)) => if source = tier then [entry] else []
  | _ => []

/-- The entries that wait in a lane and whose task the call drops from it. -/
def dropped : List Entry :=
  match moment.call with
  | .change (.drop written task) =>
    if written = tier then (moment.queues.entries tier).filter fun entry => entry.task = task else []
  | _ => []

end QueueMoment

namespace Book

/-- The book of a lane after a call. -/
def keep (tier : Tier) (book : Book) (moment : QueueMoment) : Book :=
  match moment.call with
  | .change (.push written entry) => if written = tier then book.push entry else book
  | .change .pop =>
    if moment.queues.pop.1.map Prod.fst = some tier then book.takeFirst else book
  | .change (.drop written task) => if written = tier then book.dropTask task else book
  | _ => book

/-- The book of a lane tells what was pushed to it, taken from it and dropped from it so far. -/
structure Accounts (book : Book) (waiting pushed taken dropped : List Entry) : Prop where
  inOrder : book.InOrder
  pushed_eq : book.map Line.entry = pushed
  taken_eq : book.entriesOf .taken = taken
  dropped_perm : (book.entriesOf .dropped).Perm dropped
  waiting_eq : book.entriesOf .waiting = waiting

namespace Accounts

variable {book : Book} {waiting pushed taken dropped : List Entry}

theorem empty : Accounts [] [] [] [] [] where
  inOrder := List.Pairwise.nil
  pushed_eq := rfl
  taken_eq := rfl
  dropped_perm := .refl _
  waiting_eq := rfl

theorem push (accounts : book.Accounts waiting pushed taken dropped) (entry : Entry) :
    (book.push entry).Accounts (waiting ++ [entry]) (pushed ++ [entry]) taken dropped where
  inOrder := accounts.inOrder.push entry
  pushed_eq := by rw [Book.push, List.map_append, accounts.pushed_eq]; rfl
  taken_eq := by simpa [entriesOf_push] using accounts.taken_eq
  dropped_perm := by simpa [entriesOf_push] using accounts.dropped_perm
  waiting_eq := by simp [entriesOf_push, accounts.waiting_eq]

theorem takeFirst {entry : Entry} (accounts : book.Accounts (entry :: waiting) pushed taken dropped) :
    book.takeFirst.Accounts waiting pushed (taken ++ [entry]) dropped where
  inOrder := accounts.inOrder.takeFirst
  pushed_eq := book.map_entry_takeFirst.trans accounts.pushed_eq
  taken_eq := by
    rw [accounts.inOrder.taken_takeFirst, accounts.taken_eq, accounts.waiting_eq]
    rfl
  dropped_perm := by
    rw [dropped_takeFirst]
    exact accounts.dropped_perm
  waiting_eq := by
    rw [waiting_takeFirst, accounts.waiting_eq]
    rfl

theorem dropTask (accounts : book.Accounts waiting pushed taken dropped) (task : TaskId) :
    (book.dropTask task).Accounts (waiting.filter fun entry => entry.task ≠ task) pushed taken
      (dropped ++ waiting.filter fun entry => entry.task = task) where
  inOrder := accounts.inOrder.dropTask task
  pushed_eq := (book.map_entry_dropTask task).trans accounts.pushed_eq
  taken_eq := (book.taken_dropTask task).trans accounts.taken_eq
  dropped_perm := by
    rw [← accounts.waiting_eq]
    exact (book.dropped_dropTask task).trans (accounts.dropped_perm.append_right _)
  waiting_eq := by rw [waiting_dropTask, accounts.waiting_eq]

/-- Each call is entered into the book of a lane as what it does there. -/
theorem keep {tier : Tier} (moment : QueueMoment)
    (accounts : book.Accounts (moment.queues.entries tier) pushed taken dropped) :
    (book.keep tier moment).Accounts (moment.next.entries tier) (pushed ++ moment.pushed tier)
      (taken ++ moment.taken tier) (dropped ++ moment.dropped tier) := by
  rcases moment with ⟨queues, call⟩
  cases call with
  | change operation =>
      cases operation with
      | push written entry =>
          simp only [Book.keep, QueueMoment.next, QueueMoment.pushed, QueueMoment.taken,
            QueueMoment.answer, QueueMoment.dropped, ReadyQueues.serve, ReadyQueues.entries_push,
            List.append_nil]
          split
          · exact accounts.push entry
          · rwa [List.append_nil]
      | pop =>
          rcases popped : queues.pop with ⟨_ | ⟨source, entry⟩, rest⟩
          · simpa [Book.keep, QueueMoment.next, QueueMoment.pushed, QueueMoment.taken,
              QueueMoment.answer, QueueMoment.dropped, ReadyQueues.serve, popped,
              ReadyQueues.entries_of_pop_eq_none popped] using accounts
          · have front := ReadyQueues.entries_of_pop popped tier
            simp only [Book.keep, QueueMoment.next, QueueMoment.pushed, QueueMoment.taken,
              QueueMoment.answer, QueueMoment.dropped, ReadyQueues.serve, popped,
              Option.map_some, Option.some.injEq, List.append_nil]
            by_cases same : source = tier
            · rw [if_pos same] at front ⊢
              rw [front] at accounts
              rw [if_pos same]
              exact accounts.takeFirst
            · rw [if_neg same] at front ⊢
              rw [front] at accounts
              rwa [if_neg same, List.append_nil]
      | drop written task =>
          simp only [Book.keep, QueueMoment.next, QueueMoment.pushed, QueueMoment.taken,
            QueueMoment.answer, QueueMoment.dropped, ReadyQueues.serve, ReadyQueues.entries_drop,
            List.append_nil]
          split
          · exact accounts.dropTask task
          · rwa [List.append_nil]
  | _ =>
      simpa [Book.keep, QueueMoment.next, QueueMoment.pushed, QueueMoment.taken,
        QueueMoment.answer, QueueMoment.dropped, ReadyQueues.serve] using accounts

end Accounts

end Book

namespace ReadyQueues

/-- The moments of a sequence of calls, in order. -/
def moments (queues : ReadyQueues) : List QueueCall → List QueueMoment
  | [] => []
  | call :: later => ⟨queues, call⟩ :: (queues.serve call).2.moments later

/-- What a book tells about the calls made so far it goes on to tell about the calls that follow. -/
theorem accounts_moments {queues : ReadyQueues} {tier : Tier} {book : Book}
    {pushed taken dropped : List Entry}
    (accounts : book.Accounts (queues.entries tier) pushed taken dropped)
    (calls : List QueueCall) :
    ((queues.moments calls).foldl (Book.keep tier) book).Accounts
      ((QueueCall.serveAll serve queues calls).2.entries tier)
      (pushed ++ (queues.moments calls).flatMap fun moment => moment.pushed tier)
      (taken ++ (queues.moments calls).flatMap fun moment => moment.taken tier)
      (dropped ++ (queues.moments calls).flatMap fun moment => moment.dropped tier) := by
  induction calls generalizing queues book pushed taken dropped with
  | nil => simpa [moments, QueueCall.serveAll] using accounts
  | cons call later ih =>
      have rest := ih (accounts.keep ⟨queues, call⟩)
      simp only [List.append_assoc] at rest
      exact rest

/-- An attempt fails exactly if all lanes are empty. -/
theorem Consistent.pop_eq_none_iff {queues : ReadyQueues} (consistent : queues.Consistent) :
    queues.pop.1 = none ↔ ∀ tier, queues.entries tier = [] := by
  rcases popped : queues.pop with ⟨_ | ⟨source, entry⟩, rest⟩
  · exact ⟨fun _ => entries_eq_nil_of_pop_eq_none consistent popped, fun _ => rfl⟩
  · refine ⟨fun missing => by simp at missing, ?_⟩
    intro nothing
    have front := entries_of_pop popped source
    rw [nothing source, if_pos rfl] at front
    simp at front

/-- The queues answer like one plain list for each tier, and they lose or double no entry: whatever
was pushed to a lane has been taken, has been dropped or is still waiting, and only one of these. -/
theorem behave_as_plain_lists (interval : UInt64) (calls : List QueueCall) :
    let served := QueueCall.serveAll serve (empty interval) calls
    let plain := QueueCall.serveAll PlainQueues.serve (.empty interval) calls
    let moments := (empty interval).moments calls
    served.1 = plain.1 ∧
      (∀ tier, served.2.entries tier = plain.2.lists tier ∧
        served.2.length tier = (served.2.entries tier).length ∧
        (served.2.lane tier).pop? = (served.2.lane tier).takeFront?) ∧
      (served.2.pop.1 = none ↔ ∀ tier, served.2.entries tier = []) ∧
      ∀ tier,
        let book := moments.foldl (Book.keep tier) []
        book.map Line.entry = (moments.flatMap fun moment => moment.pushed tier) ∧
          book.entriesOf .taken = (moments.flatMap fun moment => moment.taken tier) ∧
          (book.entriesOf .dropped).Perm (moments.flatMap fun moment => moment.dropped tier) ∧
          book.entriesOf .waiting = served.2.entries tier := by
  intro served plain moments
  rcases (mirrors_empty interval).serveAll calls with ⟨answers_eq, mirrors⟩
  refine ⟨answers_eq, ?_, mirrors.consistent.pop_eq_none_iff, ?_⟩
  · intro tier
    exact ⟨mirrors.entries_eq tier, mirrors.consistent tier,
      Lane.pop?_of_consistent (mirrors.consistent tier)⟩
  · intro tier book
    have nothing : Book.Accounts [] ((empty interval).entries tier) [] [] [] := by
      rw [entries_empty]
      exact .empty
    have accounts := accounts_moments nothing calls
    exact ⟨accounts.pushed_eq, accounts.taken_eq, accounts.dropped_perm, accounts.waiting_eq⟩

end ReadyQueues

end TierSched
