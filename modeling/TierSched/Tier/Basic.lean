/-!
# Priority tiers

The seven priority tiers, from the most to the least sensitive to latency. A tier is known by its
rank, and a lower rank is a higher priority: `left ≤ right` says that `left` is served no later
than `right` under strict priority.
-/

namespace TierSched

/-- A priority tier. -/
inductive Tier where
  | criticalLatency
  | realtime
  | critical
  | gaming
  | interactive
  | batch
  | background
deriving DecidableEq, Repr

namespace Tier

/-- The number of tiers. -/
abbrev count : Nat := 7

/-- All tiers in strict priority order. -/
def all : List Tier :=
  [criticalLatency, realtime, critical, gaming, interactive, batch, background]

/-- The position of a tier in strict priority order. -/
def rank : Tier → Fin count
  | criticalLatency => 0
  | realtime => 1
  | critical => 2
  | gaming => 3
  | interactive => 4
  | batch => 5
  | background => 6

/-- The tier of a given rank, if there is one. -/
def ofRank? : Nat → Option Tier
  | 0 => some criticalLatency
  | 1 => some realtime
  | 2 => some critical
  | 3 => some gaming
  | 4 => some interactive
  | 5 => some batch
  | 6 => some background
  | _ => none

/-- A new task starts in the interactive tier. -/
instance : Inhabited Tier := ⟨interactive⟩

instance : LE Tier := ⟨fun left right => left.rank ≤ right.rank⟩

instance : LT Tier := ⟨fun left right => left.rank < right.rank⟩

instance (left right : Tier) : Decidable (left ≤ right) :=
  inferInstanceAs (Decidable (left.rank ≤ right.rank))

instance (left right : Tier) : Decidable (left < right) :=
  inferInstanceAs (Decidable (left.rank < right.rank))

/-- The next lower tier; the lowest tier stays. -/
def demoted : Tier → Tier
  | criticalLatency => realtime
  | realtime => critical
  | critical => gaming
  | gaming => interactive
  | interactive => batch
  | batch | background => background

/-- The name under which a tier appears in reports. -/
def title : Tier → String
  | criticalLatency => "CritLatency"
  | realtime => "Realtime"
  | critical => "Critical"
  | gaming => "Gaming"
  | interactive => "Interactive"
  | batch => "Batch"
  | background => "Background"

/-- The name under which a tier is stored in documents. -/
def name : Tier → String
  | criticalLatency => "CriticalLatency"
  | realtime => "Realtime"
  | critical => "Critical"
  | gaming => "Gaming"
  | interactive => "Interactive"
  | batch => "Batch"
  | background => "Background"

/-- The tier stored under a given name, if there is one. -/
def ofName? (name : String) : Option Tier :=
  all.find? fun tier => tier.name == name

theorem le_def (left right : Tier) : left ≤ right ↔ left.rank ≤ right.rank := Iff.rfl

theorem lt_def (left right : Tier) : left < right ↔ left.rank < right.rank := Iff.rfl

@[simp]
theorem mem_all (tier : Tier) : tier ∈ all := by
  cases tier <;> decide

theorem rank_injective {left right : Tier} (same : left.rank = right.rank) : left = right := by
  revert same
  cases left <;> cases right <;> decide

@[simp]
theorem rank_inj {left right : Tier} : left.rank = right.rank ↔ left = right :=
  ⟨rank_injective, fun same => same ▸ rfl⟩

@[simp]
theorem ofRank?_rank (tier : Tier) : ofRank? tier.rank = some tier := by
  cases tier <;> rfl

@[simp]
theorem ofName?_name (tier : Tier) : ofName? tier.name = some tier := by
  cases tier <;> decide

end Tier

end TierSched
