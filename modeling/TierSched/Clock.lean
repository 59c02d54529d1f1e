/-!
# Clock readings and durations

Readings of the host's clock and the durations between them are words of 64 bits that count
nanoseconds. The clock is not trusted to be monotonic: the time elapsed since a later reading is
zero. Shares of a duration are computed exactly and then cut down to a word, and a sum that does
not fit is replaced by the largest word.
-/

namespace TierSched

/-- A clock reading or a duration in nanoseconds. -/
abbrev Nanos := UInt64

namespace Nanos

/-- The time from the reading `since` to the reading `now`, zero if the clock went back. -/
def elapsed (since now : Nanos) : Nanos :=
  .ofNat (now.toNat - since.toNat)

/-- The sum of two durations, or the largest duration if the sum does not fit. -/
def clampedAdd (left right : Nanos) : Nanos :=
  .ofNatClamp (left.toNat + right.toNat)

/-- `share` thousandths of a duration, rounded down, of which the low 64 bits are kept. -/
def permille (duration : Nanos) (share : UInt64) : Nanos :=
  .ofNat (duration.toNat * share.toNat / 1000)

@[simp]
theorem toNat_elapsed (since now : Nanos) :
    (elapsed since now).toNat = now.toNat - since.toNat := by
  have bound := now.toNat_lt
  simp only [elapsed, UInt64.toNat_ofNat']
  exact Nat.mod_eq_of_lt (by omega)

theorem toNat_clampedAdd (left right : Nanos) :
    (clampedAdd left right).toNat = min (left.toNat + right.toNat) (UInt64.size - 1) := by
  by_cases fits : left.toNat + right.toNat < UInt64.size
  · rw [clampedAdd, UInt64.toNat_ofNatClamp_of_lt fits]
    simp only [UInt64.size] at fits ⊢
    omega
  · have overflows : UInt64.size ≤ left.toNat + right.toNat := by omega
    rw [clampedAdd, UInt64.toNat_ofNatClamp_of_le overflows]
    simp only [UInt64.size] at overflows ⊢
    omega

theorem toNat_permille (duration : Nanos) (share : UInt64)
    (fits : duration.toNat * share.toNat / 1000 < UInt64.size) :
    (permille duration share).toNat = duration.toNat * share.toNat / 1000 := by
  simp only [permille, UInt64.toNat_ofNat']
  exact Nat.mod_eq_of_lt fits

end Nanos

end TierSched
