import NestedQuery.Spec.Basic

/-!
# Statements

An SQL query before it is written in the words of a particular database, and the aliases that can be
seen from a place in it.

## Main Definitions

* `Statement`, `SelectEntry`, `FromEntry`: the tree of a query and its sub-queries
* `MatchCondition`, `WhereEntry`, `HiddenColumn`, `OrderBy`: its other parts
* `Statement.baseTable?`: the table that a query is about
* `AliasScope`: a set of aliases
* `AliasScope.fresh`: an alias that is not in the scope
-/

namespace NestedQuery

/-- What all entries of a select list have: the name of the property, its display order, and a
comment. -/
structure EntryLabel where
  name : String
  displayOrder : Option UInt32
  comment : Option String
deriving DecidableEq, Repr, Inhabited

/-- A column exported for the join condition of the enclosing query; it is not a property. -/
structure HiddenColumn where
  field : String
  tableAlias : String
  exportName : String
deriving DecidableEq, Repr, Inhabited

/-- The equality of the matched fields of a child row and a parent row. -/
structure MatchCondition where
  parentAlias : String
  childAlias : String
  pairs : List FieldPair
  /-- Whether every child row is certain to have a parent row. -/
  guaranteed : Bool
deriving DecidableEq, Repr, Inhabited

/-- A condition on the rows of a query. -/
inductive WhereEntry where
  /-- An SQL text in which `placeholder` stands for the alias. -/
  | condition (sql placeholder tableAlias : String)
  | matching (condition : MatchCondition)
deriving DecidableEq, Repr

/-- The order of the rows of a query. -/
structure OrderBy where
  /-- An SQL text in which the default placeholder stands for the rows. -/
  sql : String
  tableAlias : String
deriving DecidableEq, Repr, Inhabited

mutual

/-- An SQL query. -/
structure Statement where
  /-- The properties, in display order. -/
  select : List SelectEntry
  hidden : List HiddenColumn
  /-- The base table, then the sub-queries joined to it. -/
  sources : List FromEntry
  conditions : List WhereEntry
  orderBy : Option OrderBy
  forUpdate : Bool
  /-- Whether rows become JSON objects. -/
  objectWrap : Bool
  /-- Whether all rows become one JSON array. -/
  aggregate : Bool
  additionalColumns : List AdditionalColumn
  resultTypeName : Option String
  leadingComment : Option String

/-- An entry of a select list. -/
inductive SelectEntry where
  /-- A field of the table with the alias. -/
  | field (label : EntryLabel) (field : Field) (tableAlias : String)
      (sourceType : Option SourceType)
  /-- An SQL expression in which `placeholder` stands for the alias. -/
  | expression (label : EntryLabel) (sql placeholder tableAlias : String)
      (sourceType : Option SourceType)
  /-- A property of a joined sub-query. -/
  | inlined (label : EntryLabel) (parentAlias : String) (parent : RelationId)
  /-- A JSON object for the parent row. -/
  | reference (label : EntryLabel) (query : Statement)
  /-- A JSON array of the child rows. -/
  | collection (label : EntryLabel) (query : Statement)

/-- A source of rows. -/
inductive FromEntry where
  | table (relation : RelationId) (aliasName : String)
  /-- A sub-query joined to the sources before it. -/
  | query (query : Statement) (aliasName : String) (join : MatchCondition)
      (comment : Option String)

end

namespace SelectEntry

/-- What all entries have. -/
def label : SelectEntry → EntryLabel
  | field label _ _ _ => label
  | expression label _ _ _ _ => label
  | inlined label _ _ => label
  | reference label _ => label
  | collection label _ => label

/-- The name of the property. -/
def name (entry : SelectEntry) : String := entry.label.name

/-- The display order of the property. -/
def displayOrder (entry : SelectEntry) : Option UInt32 := entry.label.displayOrder

end SelectEntry

/-- The alias of a source. -/
def FromEntry.aliasName : FromEntry → String
  | .table _ aliasName => aliasName
  | .query _ aliasName _ _ => aliasName

/-- The relation of a source that is a table. -/
def FromEntry.relation? : FromEntry → Option RelationId
  | .table relation _ => some relation
  | .query _ _ _ _ => none

namespace Statement

/-- The first table among the sources. -/
def baseTable? (statement : Statement) : Option RelationId :=
  statement.sources.findSome? (·.relation?)

/-- The names of the properties. -/
def names (statement : Statement) : List String := statement.select.map (·.name)

/-- The name under which a field is exported. -/
def exportName? (statement : Statement) (field : String) : Option String :=
  (statement.hidden.find? (·.field == field)).map (·.exportName)

end Statement

/-! ### Alias scopes -/

/-- A set of aliases. -/
structure AliasScope where
  aliases : List String
deriving Repr

namespace AliasScope

/-- The scope without aliases. -/
def empty : AliasScope := ⟨[]⟩

instance : Inhabited AliasScope := ⟨empty⟩

/-- Whether an alias is in the scope. -/
def contains (scope : AliasScope) (aliasName : String) : Bool := scope.aliases.contains aliasName

/-- The scope with one more alias. -/
def insert (scope : AliasScope) (aliasName : String) : AliasScope :=
  if scope.contains aliasName then scope else ⟨aliasName :: scope.aliases⟩

/-- An alias that is not in the scope: `base`, or `base` with the first number that makes it one. -/
def fresh (scope : AliasScope) (base : String) : String :=
  Text.freshName base "" scope.aliases

/-- Two scopes are the same if they hold the same aliases. -/
instance : BEq AliasScope where
  beq s t := s.aliases.all t.contains && t.aliases.all s.contains

end AliasScope

end NestedQuery
