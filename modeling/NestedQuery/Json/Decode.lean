import NestedQuery.Json.Basic

/-!
# Decoding JSON values

Readers of simple values, of enumerations and of records, from which the readers of the documents
are put together.

## Main Definitions

* `asString`, `asBool`, `asWord`, `asSigned`, `asList`, `asNullable`: simple values
* `asEnum`: a value out of a list of names
* `recordMembers`: the members of a record
* `required`, `optional`, `defaulted`: one member of a record

## Design Notes

A record is an object, or an array that holds the values of its members in the order of their
declaration, where trailing members may be left out. Keys that the record does not have are skipped.
A key of the record must not occur twice. An optional member may be absent or null; a member with a
default may be absent but not null.
-/

namespace NestedQuery.Json

/-! ### Simple values -/

/-- A string. -/
def asString : Json → Option String
  | .str s => some s
  | _ => none

/-- A truth value. -/
def asBool : Json → Option Bool
  | .bool b => some b
  | _ => none

/-- A plain integer from 0 to 2³² − 1. -/
def asWord : Json → Option UInt32
  | .int i => if 0 ≤ i ∧ i < 4294967296 then some (UInt32.ofNat i.toNat) else none
  | _ => none

/-- A plain integer from −2³¹ to 2³¹ − 1. -/
def asSigned : Json → Option Int32
  | .int i => if -2147483648 ≤ i ∧ i < 2147483648 then some (Int32.ofInt i) else none
  | _ => none

/-- An array whose items can all be read. -/
def asList (item : Json → Option α) : Json → Option (List α)
  | .arr items => items.mapM item
  | _ => none

/-- Null, or a value. -/
def asNullable (value : Json → Option α) : Json → Option (Option α)
  | .null => some none
  | j => (value j).map some

/-- One of the listed names, as a string or as the only key of an object whose value is null. -/
def asEnum (names : List (String × α)) : Json → Option α
  | .str s => names.lookup s
  | .obj [(s, .null)] => names.lookup s
  | _ => none

/-- Read a value all of whose parts must be readable. -/
def whole (value : Json → Option α) (j : Json) : Option α :=
  if j.readable then value j else none

/-! ### Records -/

/-- The members of a record with the given keys. -/
def recordMembers (keys : List String) : Json → Option (List (String × Json))
  | .obj members => some members
  | .arr items => if items.length ≤ keys.length then some (keys.zip items) else none
  | _ => none

/-- The value under a key that must not occur twice. -/
def member (members : List (String × Json)) (key : String) : Option (Option Json) :=
  match members.filter (·.1 == key) with
  | [] => some none
  | [(_, value)] => some (some value)
  | _ => none

/-- A member that must be present. -/
def required (members : List (String × Json)) (key : String) (value : Json → Option α) :
    Option α :=
  match member members key with
  | some (some j) => value j
  | _ => none

/-- A member that may be absent, with a value for that case. -/
def defaulted (members : List (String × Json)) (key : String) (default : α)
    (value : Json → Option α) : Option α :=
  match member members key with
  | some (some j) => value j
  | some none => some default
  | none => none

/-- A member that may be absent or null. -/
def optional (members : List (String × Json)) (key : String) (value : Json → Option α) :
    Option (Option α) :=
  defaulted members key none (asNullable value)

/-! ### Encoding -/

/-- A string or null. -/
def ofOption (value : α → Json) : Option α → Json
  | none => .null
  | some a => value a

/-- An array. -/
def ofList (item : α → Json) (items : List α) : Json :=
  .arr (items.map item)

/-- A word as a plain integer. -/
def ofWord (n : UInt32) : Json := .int n.toNat

/-- A signed number as a plain integer. -/
def ofSigned (n : Int32) : Json := .int n.toInt

end NestedQuery.Json
