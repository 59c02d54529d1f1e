import TierSched.Tier.Basic

/-!
# Tables with one row per tier

The queues, the statistics and the run ceilings all keep one value for each tier. A table is read
and written by tier only, so a row always exists; writing a row changes that row and no other.
-/

namespace TierSched.Tier

/-- A value for every tier, stored in strict priority order. -/
structure Table (Value : Type) where
  rows : Vector Value count
deriving DecidableEq, Repr

namespace Table

variable {Value Result : Type}

/-- The table with the same value in every row. -/
def replicate (value : Value) : Table Value :=
  ⟨.replicate count value⟩

/-- The table whose rows are given by a function of the tier. -/
def ofFn (row : Tier → Value) : Table Value :=
  ⟨#v[row criticalLatency, row realtime, row critical, row gaming, row interactive, row batch,
    row background]⟩

/-- The row of a tier. -/
def get (table : Table Value) (tier : Tier) : Value :=
  table.rows[tier.rank]

/-- The table with the row of one tier replaced. -/
def set (table : Table Value) (tier : Tier) (value : Value) : Table Value :=
  ⟨table.rows.set tier.rank value⟩

/-- The table with a function applied to the row of one tier. -/
def modify (table : Table Value) (tier : Tier) (change : Value → Value) : Table Value :=
  table.set tier (change (table.get tier))

/-- The table with a function applied to every pair of rows. -/
def zipWith {Left Right : Type} (combine : Left → Right → Value) (left : Table Left)
    (right : Table Right) : Table Value :=
  ⟨left.rows.zipWith combine right.rows⟩

/-- The rows in strict priority order. -/
def toList (table : Table Value) : List Value :=
  table.rows.toList

/-- The table with the given rows, if there is exactly one for each tier. -/
def ofList? (values : List Value) : Option (Table Value) :=
  if size_eq : values.toArray.size = count then some ⟨⟨values.toArray, size_eq⟩⟩ else none

@[simp]
theorem get_replicate (value : Value) (tier : Tier) : (replicate value).get tier = value := by
  simp [replicate, get]

@[simp]
theorem get_ofFn (row : Tier → Value) (tier : Tier) : (ofFn row).get tier = row tier := by
  cases tier <;> rfl

theorem get_set (table : Table Value) (written read : Tier) (value : Value) :
    (table.set written value).get read = if written = read then value else table.get read := by
  simp only [get, set, Fin.getElem_fin, Vector.getElem_set, ← Fin.ext_iff, rank_inj]

@[simp]
theorem get_set_self (table : Table Value) (tier : Tier) (value : Value) :
    (table.set tier value).get tier = value := by
  simp [get_set]

theorem get_modify (table : Table Value) (written read : Tier) (change : Value → Value) :
    (table.modify written change).get read =
      if written = read then change (table.get read) else table.get read := by
  by_cases same : written = read
  · simp [modify, same]
  · simp [modify, get_set, same]

@[simp]
theorem get_zipWith {Left Right : Type} (combine : Left → Right → Value) (left : Table Left)
    (right : Table Right) (tier : Tier) :
    (zipWith combine left right).get tier = combine (left.get tier) (right.get tier) := by
  simp [zipWith, get]

/-- Two tables with the same row for every tier are equal. -/
@[ext]
theorem ext {left right : Table Value} (agree : ∀ tier, left.get tier = right.get tier) :
    left = right := by
  cases left with
  | mk leftRows =>
    cases right with
    | mk rightRows =>
      congr
      ext position bound
      have tier_exists : ∃ tier : Tier, (tier.rank : Nat) = position := by
        match position, bound with
        | 0, _ => exact ⟨criticalLatency, rfl⟩
        | 1, _ => exact ⟨realtime, rfl⟩
        | 2, _ => exact ⟨critical, rfl⟩
        | 3, _ => exact ⟨gaming, rfl⟩
        | 4, _ => exact ⟨interactive, rfl⟩
        | 5, _ => exact ⟨batch, rfl⟩
        | 6, _ => exact ⟨background, rfl⟩
      obtain ⟨tier, rfl⟩ := tier_exists
      exact agree tier

theorem toList_eq_map (table : Table Value) : table.toList = all.map table.get := by
  obtain ⟨⟨⟨values⟩, size_eq⟩⟩ := table
  match values, size_eq with
  | [_, _, _, _, _, _, _], _ => rfl

@[simp]
theorem ofList?_toList (table : Table Value) : ofList? table.toList = some table := by
  obtain ⟨⟨⟨values⟩, size_eq⟩⟩ := table
  exact dif_pos size_eq

end Table

end TierSched.Tier
