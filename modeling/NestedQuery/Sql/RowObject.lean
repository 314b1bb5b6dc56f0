import NestedQuery.Sql.Dialect

/-!
# JSON values in SQL

The expressions with which the dialects make JSON objects of rows, and JSON arrays of them.

## Main Definitions

* `Dialect.rowObject`: a JSON object of a row
* `Dialect.aggregateRows`: a JSON array of the objects of all rows
* `Dialect.aggregateColumn`: a JSON array of the values of one column
-/

namespace NestedQuery

open Text (joinWith indentLines)

/-- A string literal; an apostrophe in the text is written twice. -/
def sqlLiteral (text : String) : String :=
  "'" ++ Text.replaceAll "'" "''" text ++ "'"

namespace Dialect

/-- What stands between the name and the value of a property in a JSON object. -/
def pairSeparator : Dialect → String
  | postgres => ", "
  | oracle => " value "
  | mysql => ", "

/-- A column of the rows with the given alias. -/
def column (dialect : Dialect) (source name : String) : String :=
  source ++ "." ++ dialect.quoteIfNeeded name

/-- A property of a JSON object: its name as a literal, and the column of that name. -/
def objectEntry (dialect : Dialect) (source name : String) : String :=
  sqlLiteral name ++ dialect.pairSeparator ++ dialect.column source name

/-- The properties of a JSON object, a line for each. -/
def objectEntries (dialect : Dialect) (source : String) (names : List String) : String :=
  joinWith ",\n" (names.map (dialect.objectEntry source))

/-- A JSON object with the given columns of a row. -/
def rowObject (dialect : Dialect) (indent : Nat) (source : String) (names : List String) : String :=
  let entries := dialect.objectEntries source names
  match dialect with
  | postgres => "jsonb_build_object(\n" ++ indentLines indent entries ++ "\n)"
  | oracle => "json_object(\n" ++ indentLines indent (entries ++ "\nreturning clob") ++ "\n)"
  | mysql => "json_object(\n" ++ indentLines indent entries ++ "\n)"

/-- The order of the elements within an aggregate function. -/
def aggregateOrder : Option String → String
  | some orderBy => " order by " ++ orderBy
  | none => ""

/-- A JSON array of a value for each row, empty if there are no rows. -/
def aggregateValues (dialect : Dialect) (value : String) (orderBy : Option String) :
    Except SqlError String :=
  match dialect with
  | postgres => .ok ("coalesce(jsonb_agg(" ++ value ++ aggregateOrder orderBy ++ "),'[]'::jsonb)")
  | oracle =>
    .ok ("treat(coalesce(json_arrayagg(" ++ value ++ aggregateOrder orderBy
      ++ " returning clob), to_clob('[]')) as json)")
  | mysql =>
    match orderBy with
    | some _ => .error (.aggregateOrdering .mysql)
    | none => .ok ("cast(coalesce(json_arrayagg(" ++ value ++ "), json_array()) as json)")

/-- A JSON array of the objects of all rows. -/
def aggregateRows (dialect : Dialect) (indent : Nat) (source : String) (names : List String)
    (orderBy : Option String) : Except SqlError String :=
  dialect.aggregateValues (dialect.rowObject indent source names) orderBy

/-- A JSON array of the values of one column of all rows. -/
def aggregateColumn (dialect : Dialect) (source name : String) (orderBy : Option String) :
    Except SqlError String :=
  dialect.aggregateValues (dialect.column source name) orderBy

end Dialect

end NestedQuery
