import NestedQuery.Spec.Basic

/-!
# Plans

A plan is a specification with all names resolved: every table is a relation of the database, every
field is one of its fields, and every link between tables says which fields are equated. A
plan holds just what is needed from the schema, so both the SQL statement and the result types of a
query are functions of its plan.

## Main Definitions

* `TablePlan`, `InlinedParent`, `Reference`, `Collection`: the tree of resolved tables
* `TablePlan.propertyCount`: the number of properties of a table
-/

namespace NestedQuery

/-- Where the value of a property comes from. -/
inductive ValueSource where
  /-- A field of the table. -/
  | field (field : Field)
  /-- An SQL expression, in which `placeholder` stands for the alias of the table. -/
  | expression (sql placeholder : String)
deriving DecidableEq, Repr

/-- A property that comes from the table itself. -/
structure PlannedField where
  name : String
  source : ValueSource
  sourceType : Option SourceType
  displayOrder : Option UInt32
deriving DecidableEq, Repr

/-- How child rows are matched with parent rows. -/
structure RowMatch where
  /-- The equated fields, by their stored names. -/
  pairs : List FieldPair
  /-- Whether every child row is certain to have a parent row. -/
  guaranteed : Bool
deriving DecidableEq, Repr

/-- What a plan says about a table itself. -/
structure TableHead where
  relation : RelationId
  /-- The names of the fields of the primary key, in key order. -/
  keyFields : List String
  /-- The table name as the specification has it. -/
  written : String
  aliasName : Option String
  condition : Option RecordCondition
  resultTypeName : Option String
  fields : List PlannedField
deriving DecidableEq, Repr

/-- How a parent is attached whose properties are put among those of the table. -/
structure InlineLink where
  matching : RowMatch
  subqueryAlias : Option String
deriving DecidableEq, Repr

/-- How a parent is attached that becomes a nested object. -/
structure ReferenceLink where
  name : String
  matching : RowMatch
  displayOrder : Option UInt32
deriving DecidableEq, Repr

/-- How a child is attached. -/
structure CollectionLink where
  name : String
  pairs : List FieldPair
  filter : Option String
  unwrap : Bool
  orderBy : Option String
  displayOrder : Option UInt32
deriving DecidableEq, Repr

mutual

/-- A resolved table with the tables around it. -/
structure TablePlan where
  head : TableHead
  inlined : List InlinedParent
  references : List Reference
  collections : List Collection

/-- A parent whose properties are put among those of the table. -/
structure InlinedParent where
  link : InlineLink
  plan : TablePlan

/-- A parent that becomes a nested object. -/
structure Reference where
  link : ReferenceLink
  plan : TablePlan

/-- A child whose rows become a nested collection. -/
structure Collection where
  link : CollectionLink
  plan : TablePlan

end

mutual

/-- The number of properties of a table. -/
def TablePlan.propertyCount : TablePlan → Nat
  | ⟨head, inlined, references, collections⟩ =>
    head.fields.length + InlinedParent.propertyCountAll inlined + references.length
      + collections.length
termination_by structural plan => plan

/-- The number of properties that some parents put among those of a table. -/
def InlinedParent.propertyCountAll : List InlinedParent → Nat
  | [] => 0
  | ⟨_, plan⟩ :: parents => plan.propertyCount + InlinedParent.propertyCountAll parents
termination_by structural parents => parents

end

end NestedQuery
