import TierSched.Host
import TierSched.Tier.Table

/-!
# Checked operations

A machine stops, or silently loses bits, when a word is shifted too far, an array is indexed outside
its bounds, a remainder is taken modulo zero, or a number does not fit into its word. The operations
of this library cannot fail: a row is read with a proof that it exists, and a number is reduced to
its word. A checked operation looks at the raw number instead, and reports a trap where a machine
would stop or lose bits.

The modules beside this one repeat every callback with checked operations in all these places. Each
function has one lemma, which says that its checked form succeeds with the result of the plain one.
Where the plain form carries a bound in a type, the checked form starts from the number again, so the
lemma has to find the guard that protects it.
-/

namespace TierSched

/-- Why a checked operation stops. -/
inductive Trap where
  /-- A word of 64 bits is shifted by more than 63 places. -/
  | shift (amount : Nat)
  /-- An array of this size has no such position. -/
  | index (position size : Nat)
  | zeroModulus
  | underflow
  /-- A number does not fit into so many bits. -/
  | width (bits number : Nat)
deriving DecidableEq, Repr

/-- The result of a computation with checked operations. -/
abbrev Checked (Value : Type) := Except Trap Value

namespace Checked

variable {Value Result : Type} {size : Nat}

/-- The word whose only bit is shifted to a place. -/
def bit (place : Nat) : Checked (BitVec unitLimit) :=
  if place < unitLimit then .ok (1 <<< place) else .error (.shift place)

def decrement (word : BitVec unitLimit) : Checked (BitVec unitLimit) :=
  if word = 0 then .error .underflow else .ok (word - 1)

def read (values : Vector Value size) (position : Nat) : Checked Value :=
  if present : position < size then .ok values[position] else .error (.index position size)

def write (values : Vector Value size) (position : Nat) (value : Value) :
    Checked (Vector Value size) :=
  if present : position < size then .ok (values.set position value)
  else .error (.index position size)

def remainder (dividend divisor : Nat) : Checked Nat :=
  if divisor = 0 then .error .zeroModulus else .ok (dividend % divisor)

/-- A number as a word of 128 bits, in which products of durations are formed. -/
def wide (number : Nat) : Checked Nat :=
  if number < UInt64.size * UInt64.size then .ok number else .error (.width 128 number)

/-- A number as a duration, without loss. -/
def nanos (number : Nat) : Checked Nanos :=
  if number < UInt64.size then .ok (.ofNat number) else .error (.width 64 number)

@[simp]
theorem ok_bind (value : Value) (next : Value → Checked Result) :
    (Except.ok value >>= next) = next value := rfl

@[simp]
theorem pure_eq (value : Value) : (pure value : Checked Value) = .ok value := rfl

/-- An optional step that succeeds if it is taken succeeds. -/
theorem elim_ok {Part : Type} (part? : Option Part) (skipped : Value) (step : Part → Value) :
    (part?.elim (.ok skipped) fun part => .ok (step part) : Checked Value) =
      .ok (part?.elim skipped step) := by
  cases part? <;> rfl

theorem bit_eq {place : Nat} (short : place < unitLimit) :
    bit place = .ok (.twoPow unitLimit place) :=
  if_pos short

theorem decrement_eq {word : BitVec unitLimit} (nonzero : word ≠ 0) :
    decrement word = .ok (word - 1) :=
  if_neg nonzero

theorem read_eq (values : Vector Value size) {position : Nat} (present : position < size) :
    read values position = .ok values[position] :=
  dif_pos present

theorem write_eq (values : Vector Value size) {position : Nat} (present : position < size)
    (value : Value) : write values position value = .ok (values.set position value) :=
  dif_pos present

theorem remainder_eq (dividend : Nat) {divisor : Nat} (nonzero : divisor ≠ 0) :
    remainder dividend divisor = .ok (dividend % divisor) :=
  if_neg nonzero

theorem wide_eq {number : Nat} (fits : number < UInt64.size * UInt64.size) :
    wide number = .ok number :=
  if_pos fits

theorem nanos_eq {number : Nat} (fits : number < UInt64.size) : nanos number = .ok (.ofNat number) :=
  if_pos fits

end Checked

namespace Tier.Table

variable {Value : Type} (table : Tier.Table Value) (tier : Tier)

def checkedGet : Checked Value :=
  Checked.read table.rows tier.rank

def checkedSet (value : Value) : Checked (Tier.Table Value) := do
  let rows ← Checked.write table.rows tier.rank value
  return ⟨rows⟩

def checkedModify (change : Value → Value) : Checked (Tier.Table Value) := do
  let value ← table.checkedGet tier
  table.checkedSet tier (change value)

theorem checkedGet_eq : table.checkedGet tier = .ok (table.get tier) :=
  Checked.read_eq table.rows tier.rank.isLt

theorem checkedSet_eq (value : Value) : table.checkedSet tier value = .ok (table.set tier value) := by
  rw [checkedSet, Checked.write_eq table.rows tier.rank.isLt]
  rfl

theorem checkedModify_eq (change : Value → Value) :
    table.checkedModify tier change = .ok (table.modify tier change) := by
  rw [checkedModify, checkedGet_eq, Checked.ok_bind, checkedSet_eq, modify]

end Tier.Table

end TierSched
