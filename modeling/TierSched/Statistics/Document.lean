import TierSched.Document
import TierSched.Statistics.Basic

/-!
# Stored summaries

A summary of the statistics is stored as a record of its counters. Reading takes the number of all
kicks as it is stored and does not compare it with the counters. What is stored reads back as the
same summary.
-/

namespace TierSched

/-- The stored form of a tally. -/
def WaitTally.toDocument (tally : WaitTally) : Document :=
  .record
    [("sum_ns", .ofWord tally.total), ("count", .ofWord tally.count),
      ("max_ns", .ofWord tally.longest)]

/-- The tally that a document holds. -/
def WaitTally.ofDocument? (document : Document) : Option WaitTally := do
  let [total, count, longest] ← document.row? ["sum_ns", "count", "max_ns"] | none
  return { total := ← total.word?, count := ← count.word?, longest := ← longest.word? }

/-- A tally reads back as it was stored. -/
@[simp]
theorem WaitTally.ofDocument?_toDocument (tally : WaitTally) :
    ofDocument? tally.toDocument = some tally := by
  have row_read : tally.toDocument.row? ["sum_ns", "count", "max_ns"] =
      some [.ofWord tally.total, .ofWord tally.count, .ofWord tally.longest] := rfl
  simp [ofDocument?, row_read]

namespace Summary

/-- The names of the counters in their usual order. -/
def counterNames : List String :=
  [ "total_dispatches", "direct_dispatches", "tier_dispatches", "wakeup_enqueues",
    "requeue_enqueues", "promotions", "demotions", "wait_demotions", "wait", "starvation_preempts",
    "victim_preempts", "forced_preempts", "context_fallbacks" ]

/-- The stored form of a summary. -/
def toDocument (summary : Summary) : Document :=
  .record <| counterNames.zip
    [ .ofWord summary.dispatches, .ofWord summary.directDispatches,
      .ofTable .ofWord summary.tierDispatches, .ofWord summary.wakeupEnqueues,
      .ofWord summary.requeueEnqueues, .ofWord summary.promotions, .ofWord summary.demotions,
      .ofWord summary.waitDemotions, .ofTable WaitTally.toDocument summary.waits,
      .ofTable .ofWord summary.starvationKicks, .ofWord summary.victimKicks,
      .ofWord summary.forcedKicks, .ofWord summary.fallbacks ]

/-- The summary whose counters are given in their usual order. -/
def ofRow? : List Document → Option Summary
  | [ dispatches, directDispatches, tierDispatches, wakeupEnqueues, requeueEnqueues, promotions,
      demotions, waitDemotions, waits, starvationKicks, victimKicks, forcedKicks, fallbacks ] => do
    return {
      dispatches := ← dispatches.word?
      directDispatches := ← directDispatches.word?
      tierDispatches := ← tierDispatches.table? Document.word?
      wakeupEnqueues := ← wakeupEnqueues.word?
      requeueEnqueues := ← requeueEnqueues.word?
      promotions := ← promotions.word?
      demotions := ← demotions.word?
      waitDemotions := ← waitDemotions.word?
      waits := ← waits.table? WaitTally.ofDocument?
      starvationKicks := ← starvationKicks.table? Document.word?
      victimKicks := ← victimKicks.word?
      forcedKicks := ← forcedKicks.word?
      fallbacks := ← fallbacks.word? }
  | _ => none

/-- The summary that a document holds. -/
def ofDocument? (document : Document) : Option Summary :=
  (document.row? counterNames).bind ofRow?

/-- A summary reads back as it was stored. -/
theorem ofDocument?_toDocument (summary : Summary) :
    ofDocument? summary.toDocument = some summary := by
  have row_read : summary.toDocument.row? counterNames = some
      [ .ofWord summary.dispatches, .ofWord summary.directDispatches,
        .ofTable .ofWord summary.tierDispatches, .ofWord summary.wakeupEnqueues,
        .ofWord summary.requeueEnqueues, .ofWord summary.promotions, .ofWord summary.demotions,
        .ofWord summary.waitDemotions, .ofTable WaitTally.toDocument summary.waits,
        .ofTable .ofWord summary.starvationKicks, .ofWord summary.victimKicks,
        .ofWord summary.forcedKicks, .ofWord summary.fallbacks ] := rfl
  rw [ofDocument?, row_read, Option.bind_some]
  simp only [ofRow?, Document.word?_ofWord, Document.table?_ofTable Document.word?_ofWord,
    Document.table?_ofTable WaitTally.ofDocument?_toDocument]
  rfl

end Summary

end TierSched
