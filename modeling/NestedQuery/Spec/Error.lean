import NestedQuery.Schema.Basic
import NestedQuery.Text.Layout

/-!
# Faults of a specification

Why a query cannot be compiled, and where in its specification the reason lies.

## Main Definitions

* `Location`: a path into the specification of a query
* `Fault`: the reasons
* `SpecError`: a fault at a location, with its text `SpecError.message`
-/

namespace NestedQuery

open Text (joinWith inQuotes)

/-- A place in the specification of a query: the descriptions of the parts that lead to it, the
outermost first. -/
structure Location where
  query : String
  path : List String
deriving DecidableEq, Repr, Inhabited

namespace Location

/-- The query as a whole. -/
def root (query : String) : Location := ⟨query, []⟩

/-- A part of the place. -/
def enter (location : Location) (part : String) : Location :=
  ⟨location.query, location.path ++ [part]⟩

/-- The path as text; the query as a whole has none. -/
def part? (location : Location) : Option String :=
  if location.path.isEmpty then none else some (joinWith " / " location.path)

/-- A place as text. -/
def text (location : Location) : String :=
  "query " ++ inQuotes location.query ++
    match location.part? with
    | some part => " at " ++ part
    | none => ""

end Location

/-- What can be wrong with a custom match. -/
inductive MatchFault where
  | nothingEquated
  | childFieldNotFound (field : String) (child : RelationId)
  | parentFieldNotFound (field : String) (parent : RelationId)
deriving DecidableEq, Repr

/-- The text of a fault of a custom match. -/
def MatchFault.message : MatchFault → String
  | nothingEquated => "no equated fields given"
  | childFieldNotFound field child =>
    "child field " ++ inQuotes field ++ " not found in table " ++ child.text
  | parentFieldNotFound field parent =>
    "parent field " ++ inQuotes field ++ " not found in table " ++ parent.text

/-- What can be missing when the origin of a property is looked for in a statement. -/
inductive Inconsistency where
  | noBaseTable
  | noInlineParent (aliasName : String)
  | noProperty (property aliasName : String)
deriving DecidableEq, Repr

/-- The text of an inconsistency. -/
def Inconsistency.message : Inconsistency → String
  | noBaseTable => "no base table in FROM entries"
  | noInlineParent aliasName => "no inline parent sub-query with alias " ++ inQuotes aliasName
  | noProperty property aliasName =>
    "property " ++ inQuotes property ++ " not found in inline parent " ++ inQuotes aliasName

/-- Why a specification is refused. -/
inductive Fault where
  | tableNotFound (table : String)
  | fieldNotFound (table : RelationId) (field : String)
  | ambiguousForeignKey (child parent : RelationId)
  | foreignKeyNotFound (child parent : RelationId) (fields : Option (List String))
  | invalidCustomMatch (fault : MatchFault)
  | invalidUnwrap (propertyCount : Nat)
  | emptySelectList
  | missingJsonProperty (expression : String)
  | missingSourceType (expression : String)
  | conflictingFieldAndExpression
  | noRepresentations
  | forUpdateRequiresMultiColumnRows
  | foreignKeyFieldsWithCustomMatch
  | inconsistentStatement (inconsistency : Inconsistency)
  | conflictingResultTypeName (name : String)
deriving DecidableEq, Repr

/-- The text of a fault. -/
def Fault.message : Fault → String
  | tableNotFound table => "Table " ++ inQuotes table ++ " not found"
  | fieldNotFound table field =>
    "Field " ++ inQuotes field ++ " not found in table " ++ table.text
  | ambiguousForeignKey child parent =>
    "Multiple foreign keys found from " ++ child.text ++ " to " ++ parent.text
      ++ "; specify the foreign key fields or a custom match condition"
  | foreignKeyNotFound child parent fields =>
    "No foreign key found from " ++ child.text ++ " to " ++ parent.text ++
      match fields with
      | some names => " via fields [" ++ joinWith ", " names ++ "]"
      | none => ""
  | invalidCustomMatch fault => "Invalid custom match condition: " ++ fault.message
  | invalidUnwrap propertyCount =>
    "An unwrapped collection must have exactly one property, found " ++ toString propertyCount
  | emptySelectList => "At least one property must be specified"
  | missingJsonProperty expression =>
    "A json property name is required for expression " ++ inQuotes expression
  | missingSourceType expression =>
    "A generated source type is required for expression " ++ inQuotes expression
  | conflictingFieldAndExpression => "Exactly one of 'field' or 'expression' must be provided"
  | noRepresentations => "One or more result representations must be specified"
  | forUpdateRequiresMultiColumnRows =>
    "FOR UPDATE is only allowed with the MULTI_COLUMN_ROWS result representation"
  | foreignKeyFieldsWithCustomMatch =>
    "Foreign key fields cannot be specified together with a custom match condition"
  | inconsistentStatement inconsistency =>
    "Generated SQL structure is inconsistent: " ++ inconsistency.message
  | conflictingResultTypeName name =>
    "Result type name " ++ inQuotes name ++ " is given to result types of different structure"

/-- A fault and where it was found. -/
structure SpecError where
  location : Location
  fault : Fault
deriving DecidableEq, Repr

/-- The text of an error. -/
def SpecError.message (error : SpecError) : String :=
  "In " ++ error.location.text ++ ": " ++ error.fault.message

end NestedQuery
