import NestedQuery.Name.Basic
import NestedQuery.Text.Layout

/-!
# SQL dialects

The databases for which SQL is written, and how they delimit names.

## Main Definitions

* `Dialect`: the dialects, chosen by `Dialect.ofProduct`
* `Dialect.quoteIfNeeded`: a stored name as the database reads it back
* `SqlError`: why SQL cannot be written
-/

namespace NestedQuery

/-- The dialects of SQL. -/
inductive Dialect where
  | postgres
  | oracle
  | mysql
deriving DecidableEq, Repr, Inhabited

/-- The name of a dialect. -/
def Dialect.name : Dialect → String
  | postgres => "PostgreSQL"
  | oracle => "Oracle"
  | mysql => "MySQL"

/-- Why SQL cannot be written. -/
inductive SqlError where
  | unsupportedProduct (product : String)
  /-- The dialect has no order within aggregate functions. -/
  | aggregateOrdering (dialect : Dialect)
  /-- A collection of bare values does not have just one property. -/
  | unwrappedProperties (table : String) (propertyCount : Nat)
deriving DecidableEq, Repr

/-- The text of an error. -/
def SqlError.message : SqlError → String
  | unsupportedProduct product => "Database '" ++ product ++ "' is not supported"
  | aggregateOrdering dialect =>
    "The " ++ dialect.name ++ " dialect does not support ordering within aggregate functions"
  | unwrappedProperties table propertyCount =>
    "An unwrapped collection of table '" ++ table ++ "' must have exactly one property, found "
      ++ toString propertyCount

namespace Dialect

/-- The dialect of a database product, by how its name begins. -/
def ofProduct (product : String) : Except SqlError Dialect :=
  let name := (Text.toLower product).toList
  if "postgres".toList.isPrefixOf name then .ok postgres
  else if "oracle".toList.isPrefixOf name then .ok oracle
  else if "mysql".toList.isPrefixOf name then .ok mysql
  else .error (.unsupportedProduct product)

/-! ### Names -/

/-- The words that cannot be names unless they are quoted. -/
def keywords : List String :=
  ["select", "from", "where", "user", "order", "group", "by", "over", "is"]

/-- Whether a name is a keyword in any letter case. -/
def isKeyword (name : String) : Bool := keywords.contains (Text.toLower name)

/-- Whether a text is not empty and has a first character and other characters of given kinds. -/
def hasForm (first other : Char → Bool) (name : String) : Bool :=
  match name.toList with
  | [] => false
  | c :: cs => first c && cs.all other

/-- An ASCII letter, followed by letters, digits and underscores. -/
def isSimple (name : String) : Bool :=
  hasForm Char.isAlpha (fun c => c.isAlphanum || c == '_') name

/-- A lower case letter or an underscore, followed by such characters and digits. -/
def isLowerCase (name : String) : Bool :=
  hasForm (fun c => c.isLower || c == '_') (fun c => c.isLower || c.isDigit || c == '_') name

/-- An upper case letter or an underscore, followed by such characters and digits. -/
def isUpperCase (name : String) : Bool :=
  hasForm (fun c => c.isUpper || c == '_') (fun c => c.isUpper || c.isDigit || c == '_') name

/-- The character before and after a delimited name in MySQL. -/
def backtick : Char := Char.ofNat 0x60

/-- Whether characters begin and end with a backtick, two different ones. -/
def isBackticked : List Char → Bool
  | c :: rest => c == backtick && rest.getLast? == some backtick
  | [] => false

/-- A name between backticks. -/
def inBackticks (name : String) : String :=
  backtick.toString ++ name ++ backtick.toString

/-- Whether a name is delimited in the way of the dialect. -/
def isQuoted : Dialect → String → Bool
  | postgres, name => Name.isQuoted name
  | oracle, name => Name.isQuoted name
  | mysql, name => isBackticked name.toList

/-- A name of a schema, a table or a column, delimited unless it is already or the database takes
it as it is. -/
def quoteIfNeeded : Dialect → String → String
  | postgres, name =>
    if Name.isQuoted name || (isLowerCase name && !isKeyword name) then name
    else Name.quote name
  | oracle, name =>
    if Name.isQuoted name || (isSimple name && isUpperCase name && !isKeyword name) then name
    else Name.quote name
  | mysql, name =>
    if isBackticked name.toList then name
    else if Name.isQuoted name then inBackticks (Name.dropQuotes name)
    else if !isSimple name || isKeyword name then inBackticks name
    else name

end Dialect

end NestedQuery
