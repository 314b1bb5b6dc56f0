import NestedQuery.Schema.Basic

/-!
# Query specifications

What a user asks for: a table, the fields and expressions wanted from it, the parent tables whose
fields are wanted beside them or as nested objects, and the child tables whose rows are wanted as
nested collections. Parent and child tables are specified the same way, to any depth.

## Main Definitions

* `TableSpec`, `ParentTable`, `ChildTable`: the tree of tables
* `FieldEntry`, `FieldDetail`: what is wanted from one table
* `Query`, `QueryGroup`: a table tree with the form of its results, and several of them together
* `TableSpec.paramNames`: the parameters of a query

## Design Notes

How a parent or child is attached to its table is kept apart from the table itself (`ParentLink`,
`ChildLink`), so that a recursion over the tree meets just the tables.
-/

namespace NestedQuery

/-- A language for which result types are declared. -/
inductive Language where
  | typeScript
  | java
deriving DecidableEq, Repr, Inhabited

/-- The name of a language. -/
def Language.label : Language → String
  | typeScript => "TS"
  | java => "Java"

/-- A declared type given by the user: one for all languages, or one for each of some languages. -/
inductive SourceType where
  | uniform (type : String)
  | perLanguage (typeScript java : Option String)
deriving DecidableEq, Repr, Inhabited

/-- The declared type for a language. -/
def SourceType.forLanguage : SourceType → Language → Option String
  | uniform type, _ => some type
  | perLanguage typeScript _, .typeScript => typeScript
  | perLanguage _ java, .java => java

/-- The text that stands for the alias of the table unless another one is chosen. -/
def defaultPlaceholder : String := "$$"

/-- A detailed entry of a table's field list. Just one of `field` and `expression` should be
there. -/
structure FieldDetail where
  field : Option String
  expression : Option String
  /-- The property name. -/
  jsonProperty : Option String
  sourceType : Option SourceType
  /-- The text in `expression` that stands for the alias of the table. -/
  placeholder : Option String
  displayOrder : Option UInt32
deriving DecidableEq, Repr, Inhabited

/-- An entry of a table's field list: a field name, or details. -/
inductive FieldEntry where
  | named (field : String)
  | detailed (detail : FieldDetail)
deriving DecidableEq, Repr, Inhabited

/-- The display order of an entry. -/
def FieldEntry.displayOrder : FieldEntry → Option UInt32
  | named _ => none
  | detailed detail => detail.displayOrder

/-- An SQL condition on the records of a table. -/
structure RecordCondition where
  sql : String
  paramNames : List String
  /-- The text in `sql` that stands for the alias of the table. -/
  placeholder : Option String
deriving DecidableEq, Repr, Inhabited

/-- A match between child and parent rows that is not a foreign key. -/
structure CustomMatch where
  equated : List FieldPair
  /-- Whether every child row is known to have a matching parent row. -/
  alwaysExists : Option Bool
deriving DecidableEq, Repr, Inhabited

/-- How a parent is attached to a table. A parent with a reference name becomes a nested object;
the fields of one without are put among those of the table. -/
structure ParentLink where
  referenceName : Option String
  /-- The fields of the foreign key to follow, if there are several keys. -/
  foreignKeyFields : Option (List String)
  customMatch : Option CustomMatch
  /-- The alias of the sub-query joined for a parent without reference name. -/
  subqueryAlias : Option String
  displayOrder : Option UInt32
deriving DecidableEq, Repr, Inhabited

/-- How a child is attached to a table. -/
structure ChildLink where
  collectionName : String
  foreignKeyFields : Option (List String)
  customMatch : Option CustomMatch
  /-- An SQL condition on the child's records. -/
  filter : Option String
  /-- Whether the elements of the collection are bare values instead of objects. -/
  unwrap : Option Bool
  /-- The SQL order of the elements. -/
  orderBy : Option String
  displayOrder : Option UInt32
deriving DecidableEq, Repr, Inhabited

/-- Whether the elements of the collection are bare values. -/
def ChildLink.unwraps (link : ChildLink) : Bool := link.unwrap.getD false

mutual

/-- A table and what is wanted from it and from the tables around it. -/
structure TableSpec where
  table : String
  aliasName : Option String
  fields : List FieldEntry
  parents : List ParentTable
  children : List ChildTable
  condition : Option RecordCondition
  resultTypeName : Option String

/-- A parent table with its link. -/
structure ParentTable where
  link : ParentLink
  spec : TableSpec

/-- A child table with its link. -/
structure ChildTable where
  link : ChildLink
  spec : TableSpec

end

instance : Inhabited TableSpec := ⟨⟨"", none, [], [], [], none, none⟩⟩

/-- Whether the fields of a parent are put among those of the table. -/
def ParentTable.isInline (parent : ParentTable) : Bool := parent.link.referenceName.isNone

/-- The parents whose fields are put among those of the table. -/
def TableSpec.inlineParents (spec : TableSpec) : List ParentTable :=
  spec.parents.filter (·.isInline)

/-- The parents that become nested objects. -/
def TableSpec.referencedParents (spec : TableSpec) : List ParentTable :=
  spec.parents.filter (!·.isInline)

/-! ### Parameters -/

mutual

/-- The parameters of the record conditions of a table tree, with repetitions: those of the
children, then those of the parents, then those of the table itself. -/
def TableSpec.paramNames : TableSpec → List String
  | ⟨_, _, _, parents, children, condition, _⟩ =>
    ChildTable.paramNamesAll children ++ ParentTable.paramNamesAll parents
      ++ (condition.map (·.paramNames)).getD []
termination_by structural spec => spec

/-- The parameters of the record conditions of some parents. -/
def ParentTable.paramNamesAll : List ParentTable → List String
  | [] => []
  | ⟨_, spec⟩ :: parents => spec.paramNames ++ ParentTable.paramNamesAll parents
termination_by structural parents => parents

/-- The parameters of the record conditions of some children. -/
def ChildTable.paramNamesAll : List ChildTable → List String
  | [] => []
  | ⟨_, spec⟩ :: children => spec.paramNames ++ ChildTable.paramNamesAll children
termination_by structural children => children

end

/-! ### Queries -/

/-- The form in which the rows of a query are returned. -/
inductive Representation where
  /-- A row for each record, with a column for each property. -/
  | multiColumnRows
  /-- A JSON object for each record. -/
  | jsonObjectRows
  /-- A single row with a JSON array of all records. -/
  | jsonArrayRow
deriving DecidableEq, Repr, Inhabited

/-- The name of a representation. -/
def Representation.label : Representation → String
  | multiColumnRows => "MULTI_COLUMN_ROWS"
  | jsonObjectRows => "JSON_OBJECT_ROWS"
  | jsonArrayRow => "JSON_ARRAY_ROW"

/-- A property that a query of JSON object rows returns in a column of its own as well. -/
inductive AdditionalColumn where
  | property (name : String)
  | aliased (property aliasName : String)
deriving DecidableEq, Repr, Inhabited

/-- A query: a table tree and the form of its results. -/
structure Query where
  name : String
  table : TableSpec
  representations : Option (List Representation)
  generateResultTypes : Option Bool
  propertyNaming : Option PropertyNaming
  orderBy : Option String
  forUpdate : Option Bool
  additionalColumns : List AdditionalColumn
  /-- Text at the top of the file with the query's result types. -/
  typesFileHeader : Option String
deriving Inhabited

namespace Query

/-- The representations asked for; JSON object rows if nothing is said. -/
def wantedRepresentations (query : Query) : List Representation :=
  query.representations.getD [.jsonObjectRows]

/-- Whether result types are wanted; they are if nothing is said. -/
def wantsResultTypes (query : Query) : Bool := query.generateResultTypes.getD true

/-- Whether the rows are to be locked for update. -/
def locksRows (query : Query) : Bool := query.forUpdate.getD false

/-- The parameters of a query, with repetitions. -/
def paramNames (query : Query) : List String := query.table.paramNames

end Query

/-- Several queries with common settings. -/
structure QueryGroup where
  /-- The schema of tables named without one. -/
  defaultSchema : Option String
  propertyNaming : Option PropertyNaming
  /-- The schemas whose tables are named without schema in the generated SQL. -/
  unqualifiedSchemas : List String
  queries : List Query
deriving Inhabited

end NestedQuery
