import TierSched.Tier.Table

/-!
# Documents

The form in which a configuration or a summary is stored: records with named values, lists, numbers,
truth values and texts. A record may also be given as the list of its values in their usual order,
and a tier as a record that names it and holds nothing. Readers return nothing unless the whole
document has the expected form; values under names that are not asked for are ignored.
-/

namespace TierSched

/-- A stored value. -/
inductive Document where
  | null
  | truth (value : Bool)
  | integer (value : Int)
  /-- A number that is not written as an integer. -/
  | decimal (written : String)
  | text (value : String)
  | list (items : List Document)
  | record (fields : List (String × Document))
deriving Repr

namespace Document

/-- The document of a truth value or of nothing else. -/
def truth? : Document → Option Bool
  | truth value => some value
  | _ => none

/-- The integer between zero and a limit that a document holds. -/
def below? (limit : Nat) : Document → Option Nat
  | integer (.ofNat value) => if value < limit then some value else none
  | _ => none

/-- The word of 64 bits that a document holds. -/
def word? (document : Document) : Option UInt64 :=
  (document.below? UInt64.size).map .ofNat

/-- The word of 8 bits that a document holds. -/
def byte? (document : Document) : Option UInt8 :=
  (document.below? UInt8.size).map .ofNat

/-- The name of an alternative, which may also be the only field of a record, without a value. -/
def choice? : Document → Option String
  | text name => some name
  | record [(name, null)] => some name
  | _ => none

/-- The tier that a document names. -/
def tier? (document : Document) : Option Tier :=
  document.choice?.bind Tier.ofName?

/-- The values of a record with the given names, in the order of the names. -/
def row? (names : List String) : Document → Option (List Document)
  | record fields => names.mapM fun name => fields.lookup name
  | list items => if items.length = names.length then some items else none
  | _ => none

/-- The table that a list with one value for each tier holds. -/
def table? {Value : Type} (item? : Document → Option Value) : Document → Option (Tier.Table Value)
  | list items => (items.mapM item?).bind Tier.Table.ofList?
  | _ => none

/-- The document of a natural number. -/
def ofNat (value : Nat) : Document := integer (.ofNat value)

/-- The document of a word of 64 bits. -/
def ofWord (value : UInt64) : Document := ofNat value.toNat

/-- The document of a word of 8 bits. -/
def ofByte (value : UInt8) : Document := ofNat value.toNat

/-- The document of a tier. -/
def ofTier (tier : Tier) : Document := text tier.name

/-- The document of a table. -/
def ofTable {Value : Type} (item : Value → Document) (table : Tier.Table Value) : Document :=
  list (table.toList.map item)

theorem below?_ofNat {limit value : Nat} (bound : value < limit) :
    (ofNat value).below? limit = some value :=
  if_pos bound

@[simp]
theorem word?_ofWord (value : UInt64) : (ofWord value).word? = some value := by
  rw [ofWord, word?, below?_ofNat value.toNat_lt, Option.map_some, UInt64.ofNat_toNat]

@[simp]
theorem byte?_ofByte (value : UInt8) : (ofByte value).byte? = some value := by
  rw [ofByte, byte?, below?_ofNat value.toNat_lt, Option.map_some, UInt8.ofNat_toNat]

@[simp]
theorem tier?_ofTier (tier : Tier) : (ofTier tier).tier? = some tier := by
  exact Tier.ofName?_name tier

/-- A table reads back as it was stored if each of its values does. -/
theorem table?_ofTable {Value : Type} {item : Value → Document} {item? : Document → Option Value}
    (item_read : ∀ value, item? (item value) = some value) (table : Tier.Table Value) :
    (ofTable item table).table? item? = some table := by
  have rows_read : (table.toList.map item).mapM item? = some table.toList := by
    induction table.toList with
    | nil => rfl
    | cons first others ih => simp [item_read, ih]
  rw [ofTable, table?, rows_read, Option.bind_some, Tier.Table.ofList?_toList]

end Document

end TierSched
