import NestedQuery.Json.Decode
import NestedQuery.Schema.Codec
import NestedQuery.Spec.Error
import NestedQuery.Statement.Basic

/-!
# Origins of properties

Where the properties of a query come from, read off its statement: a field or an expression of the
table, a referenced parent or a collection with properties of its own. A property of an inline
parent is followed through the joined sub-queries to the table that provides it.

## Main Definitions

* `PropertyOrigin`, `QueryOrigins`: what is told
* `Statement.origins`: the origins of a statement's properties
* `QueryOrigins.toJson`: them as JSON
-/

namespace NestedQuery

/-- A step from a table to one of its inline parents, by the fields of the table. -/
structure ParentStep where
  parent : RelationId
  fields : List String
deriving DecidableEq, Repr

mutual

/-- A property and where it comes from. -/
structure PropertyOrigin where
  property : String
  source : OriginSource
  /-- The steps from the table of the query to the one that provides the property. -/
  via : List ParentStep

/-- What provides a property. -/
inductive OriginSource where
  | field (name : String)
  | expression (sql : String)
  | reference (relation : RelationId) (properties : List PropertyOrigin)
  | collection (relation : RelationId) (properties : List PropertyOrigin) (unwrapped : Bool)

end

/-- The origins of the properties of a query. -/
structure QueryOrigins where
  query : String
  relation : RelationId
  properties : List PropertyOrigin

/-- The table that a statement is about, which must be there. -/
def Statement.baseTable (statement : Statement) : Except Inconsistency RelationId :=
  match statement.baseTable? with
  | some relation => .ok relation
  | none => .error .noBaseTable

/-- A property with its origin, or why that is not to be found. -/
structure TracedProperty where
  property : String
  origin : Except Inconsistency PropertyOrigin

/-- What a joined sub-query tells about its properties. -/
structure TracedSource where
  aliasName : String
  baseTable : Except Inconsistency RelationId
  /-- The fields of the enclosing table that the join condition uses. -/
  fields : List String
  properties : List TracedProperty

/-- The origin of a property that comes from a joined sub-query: the first one with the alias, and
its first property of the name. -/
def traceInlined (sources : List TracedSource) (property aliasName : String) :
    Except Inconsistency PropertyOrigin :=
  match sources.find? (·.aliasName == aliasName) with
  | none => .error (.noInlineParent aliasName)
  | some source =>
    match source.properties.find? (·.property == property) with
    | none => .error (.noProperty property aliasName)
    | some traced => do
      let parent ← source.baseTable
      let origin ← traced.origin
      return { origin with via := ⟨parent, source.fields⟩ :: origin.via }

mutual

/-- The properties of a statement, each with its origin. -/
def Statement.trace : Statement → List TracedProperty
  | ⟨select, _, sources, _, _, _, _, _, _, _, _⟩ =>
    SelectEntry.traceAll (FromEntry.traceAll sources) select
termination_by structural statement => statement

/-- The sub-queries among some sources. -/
def FromEntry.traceAll : List FromEntry → List TracedSource
  | [] => []
  | .table _ _ :: sources => FromEntry.traceAll sources
  | .query query aliasName join _ :: sources =>
    ⟨aliasName, query.baseTable, join.pairs.map (·.child), query.trace⟩
      :: FromEntry.traceAll sources
termination_by structural sources => sources

/-- The properties of a select list. -/
def SelectEntry.traceAll (sources : List TracedSource) :
    List SelectEntry → List TracedProperty
  | [] => []
  | .field label field _ _ :: entries =>
    ⟨label.name, .ok ⟨label.name, .field field.name, []⟩⟩ :: SelectEntry.traceAll sources entries
  | .expression label sql _ _ _ :: entries =>
    ⟨label.name, .ok ⟨label.name, .expression sql, []⟩⟩ :: SelectEntry.traceAll sources entries
  | .inlined label parentAlias _ :: entries =>
    ⟨label.name, traceInlined sources label.name parentAlias⟩
      :: SelectEntry.traceAll sources entries
  | .reference label query :: entries =>
    ⟨label.name, do
      let relation ← query.baseTable
      let properties ← query.trace.mapM (·.origin)
      return ⟨label.name, .reference relation properties, []⟩⟩
      :: SelectEntry.traceAll sources entries
  | .collection label query :: entries =>
    ⟨label.name, do
      let relation ← query.baseTable
      let properties ← query.trace.mapM (·.origin)
      return ⟨label.name, .collection relation properties (!query.objectWrap), []⟩⟩
      :: SelectEntry.traceAll sources entries
termination_by structural entries => entries

end

/-- The origins of a statement's properties. -/
def Statement.originsOf (query : String) (statement : Statement) :
    Except Inconsistency QueryOrigins := do
  let relation ← statement.baseTable
  let properties ← statement.trace.mapM (·.origin)
  return ⟨query, relation, properties⟩

/-- The origins of the properties of a query's statement. -/
def Statement.origins (query : String) (statement : Statement) :
    Except SpecError QueryOrigins :=
  match statement.originsOf query with
  | .ok origins => .ok origins
  | .error inconsistency =>
    .error ⟨Location.root query, .inconsistentStatement inconsistency⟩

/-! ### As JSON -/

/-- Write a step to a parent. -/
def ParentStep.toJson (step : ParentStep) : Json :=
  .obj [("parent", step.parent.toJson), ("viaFkFields", Json.ofList .str step.fields)]

/-- The member for the steps to an ancestor, which is left out when there are none. -/
def ParentStep.members (steps : List ParentStep) : List (String × Json) :=
  if steps.isEmpty then []
  else [("inlinedFromAncestorVia", Json.ofList ParentStep.toJson steps)]

mutual

/-- Write the origins of properties. -/
def PropertyOrigin.itemsToJson : List PropertyOrigin → List Json
  | [] => []
  | ⟨property, source, via⟩ :: origins =>
    .obj ([("propertyName", .str property), ("source", source.toJson)] ++ ParentStep.members via)
      :: PropertyOrigin.itemsToJson origins
termination_by structural origins => origins

/-- Write what provides a property. -/
def OriginSource.toJson : OriginSource → Json
  | .field name => .obj [("type", .str "field"), ("field", .str name)]
  | .expression sql => .obj [("type", .str "expression"), ("expression", .str sql)]
  | .reference relation properties =>
    .obj [
      ("type", .str "parent-reference"),
      ("table", relation.toJson),
      ("properties", .arr (PropertyOrigin.itemsToJson properties))]
  | .collection relation properties unwrapped =>
    .obj [
      ("type", .str "child-collection"),
      ("table", relation.toJson),
      ("properties", .arr (PropertyOrigin.itemsToJson properties)),
      ("unwrapped", .bool unwrapped)]
termination_by structural source => source

end

/-- Write the origins of a query's properties. -/
def QueryOrigins.toJson (origins : QueryOrigins) : Json :=
  .obj [
    ("queryName", .str origins.query),
    ("table", origins.relation.toJson),
    ("properties", .arr (PropertyOrigin.itemsToJson origins.properties))]

end NestedQuery
