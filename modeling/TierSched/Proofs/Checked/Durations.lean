import TierSched.Proofs.Checked.Primitive
import TierSched.Proofs.SliceCeiling

/-!
# Checked durations and profiles

Shares of a duration and blends of two durations are formed in words of 128 bits and then cut down to
64. A blend lies between its two durations, so it fits whatever they are. A share of the quantum fits
because acceptance bounds the quantum and the shares, and so does the sum that a new task is granted.
In a profile these are the only operations that can lose bits; the ceiling of a run is read from a
table.
-/

namespace TierSched

namespace Nanos

/-- `share` thousandths of a duration, formed in a wide word and cut down without loss. -/
def checkedPermille (duration : Nanos) (share : UInt64) : Checked Nanos := do
  let product ← Checked.wide (duration.toNat * share.toNat)
  Checked.nanos (product / 1000)

theorem checkedPermille_eq {duration : Nanos} {share : UInt64}
    (fits : duration.toNat * share.toNat / 1000 < UInt64.size) :
    duration.checkedPermille share = .ok (duration.permille share) := by
  have wide : duration.toNat * share.toNat < UInt64.size * UInt64.size :=
    Nat.mul_lt_mul'' duration.toNat_lt share.toNat_lt
  rw [checkedPermille, Checked.wide_eq wide, Checked.ok_bind, Checked.nanos_eq fits, permille]

end Nanos

def Tier.checkedSlice (tier : Tier) (quantum : Nanos) : Checked Nanos :=
  quantum.checkedPermille tier.quantumShare

namespace RuntimeEstimate

def checkedBlend (average sample : Nanos) : Checked Nanos := do
  let weighted ← Checked.wide
    (sampleWeight * sample.toNat + (totalWeight - sampleWeight) * average.toNat)
  Checked.nanos (weighted / totalWeight)

def checkedAdd (estimate : RuntimeEstimate) (sample : Nanos) : Checked RuntimeEstimate := do
  let average ←
    if estimate.samples = 0 then pure sample else checkedBlend estimate.average sample
  return { average, samples := .ofNatClamp (estimate.samples.toNat + 1) }

theorem checkedBlend_eq (average sample : Nanos) :
    checkedBlend average sample = .ok (blend average sample) := by
  have averageBound := average.toNat_lt
  have sampleBound := sample.toNat_lt
  rw [checkedBlend, Checked.wide_eq, Checked.ok_bind, Checked.nanos_eq, blend]
  · simp only [sampleWeight, totalWeight, UInt64.size]
    omega
  · simp only [sampleWeight, totalWeight, UInt64.size]
    omega

theorem checkedAdd_eq (estimate : RuntimeEstimate) (sample : Nanos) :
    estimate.checkedAdd sample = .ok (estimate.add sample) := by
  unfold checkedAdd add
  split
  · rfl
  · rw [checkedBlend_eq]
    rfl

end RuntimeEstimate

namespace Config

def checkedShortRunThreshold (config : Config) : Checked Nanos :=
  config.quantum.checkedPermille config.sparseShare

/-- The slice of a task that has never stopped, as an exact sum. -/
def checkedNewTaskSlice (config : Config) : Checked Nanos :=
  Checked.nanos (config.quantum.toNat + config.newTaskBonus.toNat)

/-- The ceilings as they are stored, one row for each tier. -/
def ceilings (config : Config) : Tier.Table Nanos :=
  .ofFn config.runCeiling

namespace Accepted

variable {config : Config}

theorem checkedSlice_eq (accepted : config.Accepted) (tier : Tier) :
    tier.checkedSlice config.quantum = .ok (tier.slice config.quantum) :=
  Nanos.checkedPermille_eq (accepted.toNat_slice tier ▸ (tier.slice config.quantum).toNat_lt)

/-- A quantum that is not accepted can be too long for its shares. -/
example : Tier.background.checkedSlice 18446744073709551615 =
    .error (.width 64 23980767295822417099) := rfl

theorem toNat_shortRunThreshold (accepted : config.Accepted) :
    config.shortRunThreshold.toNat =
      config.quantum.toNat * config.sparseShare.toNat / 1000 := by
  have quantumBound := config.quantum.toNat_lt
  have shareBound := UInt64.le_iff_toNat_le.mp accepted.sparseShare_le
  have product := Nat.mul_le_mul_left config.quantum.toNat shareBound
  apply Nanos.toNat_permille
  simp only [UInt64.reduceToNat, UInt64.size] at product ⊢
  omega

theorem checkedShortRunThreshold_eq (accepted : config.Accepted) :
    config.checkedShortRunThreshold = .ok config.shortRunThreshold :=
  Nanos.checkedPermille_eq
    (accepted.toNat_shortRunThreshold ▸ config.shortRunThreshold.toNat_lt)

theorem checkedNewTaskSlice_eq (accepted : config.Accepted) :
    config.checkedNewTaskSlice = .ok config.newTaskSlice := by
  have fits : config.quantum.toNat + config.newTaskBonus.toNat < UInt64.size :=
    accepted.toNat_newTaskSlice ▸ config.newTaskSlice.toNat_lt
  rw [checkedNewTaskSlice, Checked.nanos_eq fits, ← accepted.toNat_newTaskSlice,
    UInt64.ofNat_toNat]

end Accepted

end Config

namespace Profile

def checkedFresh (config : Config) : Checked Profile := do
  let slice ← config.checkedNewTaskSlice
  return { fresh config with slice }

def checkedAssign (profile : Profile) (tier : Tier) (quantum : Nanos) : Checked Profile := do
  let slice ← tier.checkedSlice quantum
  return { profile with tier, slice }

end Profile

def WaitBudget.checkedJudge (budget : WaitBudget) (profile : Profile) (wait : Nanos) :
    Checked (Judgement × Profile) :=
  match profile.tier.waitBudget? with
  | none => return (.unlimited, { profile with violations := 0 })
  | some allowed =>
    if wait ≤ allowed then
      return (.tolerated, { profile with violations := 0 })
    else
      let violations := countBreach profile.violations
      if violations < budget.limit then
        return (.breach violations, { profile with violations })
      else do
        let target := profile.tier.demoted
        let assigned ← profile.checkedAssign target budget.quantum
        return (.demotion profile.tier target,
          { assigned with
            score := profile.score.penalized budget.penalty
            violations := 0 })

namespace Profile

def checkedStart (profile : Profile) (budget : WaitBudget) (now : Nanos) :
    Checked (Started × Profile) := do
  let running :=
    { profile.moveTo .running with
      waitsIn := none
      startedAt := now
      kickedInRun := false
      kickedOnWake := false
      runs := profile.runs + 1 }
  let regular := profile.phase.permits .running
  if profile.phase.isRunnable then
    let duration := Nanos.elapsed profile.runnableSince now
    let judged ← budget.checkedJudge running duration
    return (⟨judged.2.tier, some ⟨duration, profile.tier, judged.1⟩, profile.waitsIn, regular⟩,
      judged.2)
  else
    return (⟨running.tier, none, profile.waitsIn, regular⟩, running)

def checkedAccount (profile : Profile) (config : Config) (runtime : Nanos) : Checked Profile := do
  let threshold ← config.checkedShortRunThreshold
  let score := profile.score.afterRun runtime threshold
  let estimate ← profile.runtime.checkedAdd runtime
  let assigned ← profile.checkedAssign (score.tier estimate.average config.criticalGate)
    config.quantum
  return { assigned with
    score
    runtime := estimate
    isNew := false
    isSparse := Score.sparseFloor ≤ score
    totalRuntime := profile.totalRuntime + runtime }

def checkedStop (profile : Profile) (config : Config) (now : Nanos) (requeue : Bool) :
    Checked (Option (Tier × Tier) × Profile) := do
  let next := if requeue then Phase.stopping else Phase.sleeping
  if profile.phase = .running then
    let accounted ← profile.checkedAccount config (Nanos.elapsed profile.startedAt now)
    let runnableSince := if requeue then now else profile.runnableSince
    return (some (profile.tier, accounted.tier), { accounted.moveTo next with runnableSince })
  else
    return (none, profile.moveTo next)

/-- Checks the ceiling of a run; the ceiling is looked up only while the task runs. -/
def checkedCheckCeiling (profile : Profile) (ceilings : Tier.Table Nanos) (now : Nanos) :
    Checked (Option (Tier × Nanos) × Profile) :=
  if profile.phase = .running ∧ profile.kickedInRun = false then do
    let runtime := Nanos.elapsed profile.startedAt now
    let ceiling ← ceilings.checkedGet profile.tier
    if ceiling < runtime then
      return (some (profile.tier, runtime), { profile with kickedInRun := true })
    else
      return (none, profile)
  else
    return (none, profile)

variable {config : Config}

theorem checkedFresh_eq (accepted : config.Accepted) : checkedFresh config = .ok (fresh config) := by
  rw [checkedFresh, accepted.checkedNewTaskSlice_eq]
  rfl

theorem checkedAssign_eq (accepted : config.Accepted) (profile : Profile) (tier : Tier) :
    profile.checkedAssign tier config.quantum = .ok (profile.assign tier config.quantum) := by
  rw [checkedAssign, accepted.checkedSlice_eq]
  rfl

theorem checkedJudge_eq (accepted : config.Accepted) (profile : Profile) (wait : Nanos) :
    config.waitBudget.checkedJudge profile wait = .ok (config.waitBudget.judge profile wait) := by
  unfold WaitBudget.checkedJudge WaitBudget.judge
  cases profile.tier.waitBudget? with
  | none => rfl
  | some allowed =>
      have assigned : profile.checkedAssign profile.tier.demoted config.waitBudget.quantum =
          .ok (profile.assign profile.tier.demoted config.waitBudget.quantum) :=
        profile.checkedAssign_eq accepted profile.tier.demoted
      simp only [assigned, Checked.ok_bind, Checked.pure_eq]
      split
      · rfl
      · split <;> rfl

theorem checkedStart_eq (accepted : config.Accepted) (profile : Profile) (now : Nanos) :
    profile.checkedStart config.waitBudget now = .ok (profile.start config.waitBudget now) := by
  simp only [checkedStart, start, checkedJudge_eq accepted, Checked.ok_bind, Checked.pure_eq]
  split <;> rfl

theorem checkedAccount_eq (accepted : config.Accepted) (profile : Profile) (runtime : Nanos) :
    profile.checkedAccount config runtime = .ok (profile.account config runtime) := by
  simp only [checkedAccount, account, accepted.checkedShortRunThreshold_eq,
    RuntimeEstimate.checkedAdd_eq, checkedAssign_eq accepted, Checked.ok_bind, Checked.pure_eq]

theorem checkedStop_eq (accepted : config.Accepted) (profile : Profile) (now : Nanos)
    (requeue : Bool) :
    profile.checkedStop config now requeue = .ok (profile.stop config now requeue) := by
  simp only [checkedStop, stop, checkedAccount_eq accepted, Checked.ok_bind, Checked.pure_eq]
  split <;> rfl

theorem checkedCheckCeiling_eq (config : Config) (profile : Profile) (now : Nanos) :
    profile.checkedCheckCeiling config.ceilings now =
      .ok (profile.checkCeiling config.runCeiling now) := by
  simp only [checkedCheckCeiling, checkCeiling, Tier.Table.checkedGet_eq, Config.ceilings,
    Tier.Table.get_ofFn, Checked.ok_bind, Checked.pure_eq]
  by_cases armed : profile.phase = .running ∧ profile.kickedInRun = false
  · simp only [armed.1, armed.2, true_and, and_self, if_true]
    split <;> rfl
  · have calm : ¬(profile.phase = .running ∧ profile.kickedInRun = false ∧
        config.runCeiling profile.tier < Nanos.elapsed profile.startedAt now) :=
      fun due => armed ⟨due.1, due.2.1⟩
    rw [if_neg armed, if_neg calm]

end Profile

end TierSched
