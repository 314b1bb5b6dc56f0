import NestedQuery.Text.Words

/-!
# Names

A database keeps the names of its tables and columns in a stored form. Users may write a name
differently: an unquoted name is understood up to the letter case that the database folds to, and a
name between double quotes stands for exactly what is between them. A table is named by itself or
after its schema and a dot, and a dot separates only outside double quotes, so that quoted names may
hold dots. A selected field that is given no property name of its own gets one from the field name
as written.

## Main Definitions

* `CasePolicy`: how a database stores and compares unquoted names
* `isQuoted`: whether a name is written between double quotes
* `CasePolicy.normalize`: the folded form of a name, quotes kept
* `CasePolicy.exact`: the stored form that a written name stands for
* `QualifiedName.split`: the parts of a written table name
* `PropertyNaming.propertyName`: the default property name of a field
-/

namespace NestedQuery

/-! ### Stored and written names -/

/-- How a database treats the letter case of names written without quotes. -/
inductive CasePolicy where
  /-- Case does not matter, names are stored in lower case. -/
  | storedLower
  /-- Case does not matter, names are stored in upper case. -/
  | storedUpper
  /-- Case does not matter, names are stored as they were first written. -/
  | storedMixed
  /-- Names that differ in case are different. -/
  | sensitive
deriving DecidableEq, Repr, Inhabited

namespace Name

/-- Whether characters begin and end with a double quote, two different ones. -/
def isQuotedChars : List Char → Bool
  | '"' :: rest => rest.getLast? == some '"'
  | _ => false

/-- Whether a name is written between double quotes. -/
def isQuoted (name : String) : Bool :=
  isQuotedChars name.toList

/-- A name without its first and last character. -/
def dropQuotes (name : String) : String :=
  String.ofList name.toList.tail.dropLast

/-- A name between double quotes. -/
def quote (name : String) : String := "\"" ++ name ++ "\""

end Name

namespace CasePolicy

/-- The letter case in which the database stores an unquoted name. -/
def fold : CasePolicy → String → String
  | storedLower, name => Text.toLower name
  | storedUpper, name => Text.toUpper name
  | storedMixed, name => name
  | sensitive, name => name

/-- A name in the letter case of the database; a quoted name stays as it is. -/
def normalize (policy : CasePolicy) (name : String) : String :=
  if Name.isQuoted name then name else policy.fold name

/-- The stored name that a written name stands for. -/
def exact (policy : CasePolicy) (name : String) : String :=
  if Name.isQuoted name then Name.dropQuotes name else policy.fold name

end CasePolicy

/-! ### Qualified names -/

/-- A table name with the schema written in front of it, if any. -/
structure QualifiedName where
  schema : Option String
  name : String
deriving DecidableEq, Repr

namespace QualifiedName

/-- A text cut at every dot that an even number of double quotes precedes; `inQuotes` tells
whether the quotes before the text leave one open. -/
def pieces (inQuotes : Bool) : List Char → List (List Char)
  | [] => [[]]
  | c :: cs =>
    if c = '.' && !inQuotes then
      [] :: pieces inQuotes cs
    else
      match pieces (if c = '"' then !inQuotes else inQuotes) cs with
      | [] => [[c]]
      | piece :: rest => (c :: piece) :: rest

/-- Read a written table name: one or two pieces, none of them empty. -/
def split (written : String) : Option QualifiedName :=
  match pieces false written.toList with
  | [name] =>
    if name.isEmpty then none else some ⟨none, String.ofList name⟩
  | [schema, name] =>
    if schema.isEmpty || name.isEmpty then none
    else some ⟨some (String.ofList schema), String.ofList name⟩
  | _ => none

end QualifiedName

/-! ### Default property names -/

/-- How the property name of a field is derived from the field name. -/
inductive PropertyNaming where
  /-- The name in the letter case in which the database stores it. -/
  | asInDatabase
  /-- The name in camel case, the first word in lower case. -/
  | camelCase
deriving DecidableEq, Repr, Inhabited

/-- The default property name of a field. A written name of mixed case is kept when names are
taken from the database. -/
def PropertyNaming.propertyName (naming : PropertyNaming) (policy : CasePolicy) (field : String) :
    String :=
  match naming with
  | camelCase => Text.lowerCamel field
  | asInDatabase => if Text.isMixedCase field then field else policy.fold field

end NestedQuery
