import NestedQuery.Json.Decode
import NestedQuery.Spec.Basic

/-!
# Query specifications as JSON

## Main Definitions

* `QueryGroup.ofJson?`, `Query.ofJson?`, `TableSpec.ofJson?`: read a specification
* `QueryGroup.toJson`, `Query.toJson`, `TableSpec.toJson`: write it

## Design Notes

A parent or child is one object that holds the members of its table among its own, so it has no
array form. Where a value may have several forms, and in the table members of a parent or child,
every part of the value must be readable, even under keys that are skipped.
-/

namespace NestedQuery

open Json

/-! ### Names -/

/-- The names of the languages. -/
def Language.names : List (String × Language) := [("TS", .typeScript), ("Java", .java)]

/-- The names of the representations. -/
def Representation.names : List (String × Representation) := [
  ("MULTI_COLUMN_ROWS", .multiColumnRows),
  ("JSON_OBJECT_ROWS", .jsonObjectRows),
  ("JSON_ARRAY_ROW", .jsonArrayRow)]

/-- The names of the ways to derive property names. -/
def PropertyNaming.names : List (String × PropertyNaming) :=
  [("AS_IN_DB", .asInDatabase), ("CAMELCASE", .camelCase)]

/-- The name of a way to derive property names. -/
def PropertyNaming.label : PropertyNaming → String
  | asInDatabase => "AS_IN_DB"
  | camelCase => "CAMELCASE"

/-! ### Reading -/

/-- Read the declared types by language; of a repeated language the last type counts. -/
def SourceType.ofMembers? (typeScript java : Option String) :
    List (String × Json) → Option SourceType
  | [] => some (.perLanguage typeScript java)
  | (key, value) :: members => do
    let language ← Language.names.lookup key
    let type ← asString value
    match language with
    | .typeScript => SourceType.ofMembers? (some type) java members
    | .java => SourceType.ofMembers? typeScript (some type) members

/-- Read a declared type. -/
def SourceType.ofJson? : Json → Option SourceType
  | .str type => some (.uniform type)
  | .obj members => SourceType.ofMembers? none none members
  | _ => none

/-- Read the details of a field entry. -/
def FieldDetail.ofJson? (j : Json) : Option FieldDetail := do
  let ms ← recordMembers
    ["field", "expression", "jsonProperty", "fieldTypeInGeneratedSource", "withTableAliasAs",
      "displayOrder"] j
  let field ← optional ms "field" asString
  let expression ← optional ms "expression" asString
  let jsonProperty ← optional ms "jsonProperty" asString
  let sourceType ← optional ms "fieldTypeInGeneratedSource" SourceType.ofJson?
  let placeholder ← optional ms "withTableAliasAs" asString
  let displayOrder ← optional ms "displayOrder" asWord
  return ⟨field, expression, jsonProperty, sourceType, placeholder, displayOrder⟩

/-- Read a field entry. -/
def FieldEntry.ofJson? (j : Json) : Option FieldEntry :=
  whole (fun
    | .str name => some (.named name)
    | j => (FieldDetail.ofJson? j).map .detailed) j

/-- Read a record condition. -/
def RecordCondition.ofJson? (j : Json) : Option RecordCondition := do
  let ms ← recordMembers ["sql", "paramNames", "withTableAliasAs"] j
  let sql ← required ms "sql" asString
  let paramNames ← defaulted ms "paramNames" [] (asList asString)
  let placeholder ← optional ms "withTableAliasAs" asString
  return ⟨sql, paramNames, placeholder⟩

/-- Read a pair of equated fields. -/
def CustomMatch.pairOfJson? (j : Json) : Option FieldPair := do
  let ms ← recordMembers ["childField", "parentPrimaryKeyField"] j
  let child ← required ms "childField" asString
  let parent ← required ms "parentPrimaryKeyField" asString
  return ⟨child, parent⟩

/-- Read a custom match. -/
def CustomMatch.ofJson? (j : Json) : Option CustomMatch := do
  let ms ← recordMembers ["equatedFields", "matchAlwaysExists"] j
  let equated ← required ms "equatedFields" (asList CustomMatch.pairOfJson?)
  let alwaysExists ← optional ms "matchAlwaysExists" asBool
  return ⟨equated, alwaysExists⟩

/-- The keys of a parent besides those of its table. -/
def ParentLink.keys : List String :=
  ["referenceName", "viaForeignKeyFields", "customMatchCondition", "subqueryAlias", "displayOrder"]

/-- Read how a parent is attached. -/
def ParentLink.ofMembers? (ms : List (String × Json)) : Option ParentLink := do
  let referenceName ← optional ms "referenceName" asString
  let foreignKeyFields ← optional ms "viaForeignKeyFields" (asList asString)
  let customMatch ← optional ms "customMatchCondition" CustomMatch.ofJson?
  let subqueryAlias ← optional ms "subqueryAlias" asString
  let displayOrder ← optional ms "displayOrder" asWord
  return ⟨referenceName, foreignKeyFields, customMatch, subqueryAlias, displayOrder⟩

/-- The keys of a child besides those of its table. -/
def ChildLink.keys : List String :=
  ["collectionName", "foreignKeyFields", "customMatchCondition", "filter", "unwrap", "orderBy",
    "displayOrder"]

/-- Read how a child is attached. -/
def ChildLink.ofMembers? (ms : List (String × Json)) : Option ChildLink := do
  let collectionName ← required ms "collectionName" asString
  let foreignKeyFields ← optional ms "foreignKeyFields" (asList asString)
  let customMatch ← optional ms "customMatchCondition" CustomMatch.ofJson?
  let filter ← optional ms "filter" asString
  let unwrap ← optional ms "unwrap" asBool
  let orderBy ← optional ms "orderBy" asString
  let displayOrder ← optional ms "displayOrder" asWord
  return ⟨collectionName, foreignKeyFields, customMatch, filter, unwrap, orderBy, displayOrder⟩

/-- Whether every member under a key other than the given ones is readable. -/
def othersReadable (keys : List String) (ms : List (String × Json)) : Bool :=
  ms.all fun m => keys.contains m.1 || m.2.readable

/-- The parts of a table that hold no other tables. -/
structure TableCore where
  table : String
  aliasName : Option String
  fields : List FieldEntry
  condition : Option RecordCondition
  resultTypeName : Option String

/-- Read the parts of a table that hold no other tables. -/
def TableCore.ofMembers? (ms : List (String × Json)) : Option TableCore := do
  let table ← required ms "table" asString
  let aliasName ← optional ms "alias" asString
  let fields ← defaulted ms "fieldExpressions" [] (asList FieldEntry.ofJson?)
  let condition ← optional ms "recordCondition" RecordCondition.ofJson?
  let resultTypeName ← optional ms "resultTypeName" asString
  return ⟨table, aliasName, fields, condition, resultTypeName⟩

/-- A table from its parts. -/
def TableCore.withTables (core : TableCore) (parents : List ParentTable)
    (children : List ChildTable) : TableSpec :=
  ⟨core.table, core.aliasName, core.fields, parents, children, core.condition, core.resultTypeName⟩

/-- Whether a key occurs among some members. -/
def hasKey (key : String) (ms : List (String × Json)) : Bool :=
  ms.any (·.1 == key)

mutual

/-- Read the parents of a table from its members: none if there is no such member. -/
def parentsOfMembers? : List (String × Json) → Option (List ParentTable)
  | [] => some []
  | (key, value) :: ms =>
    if key == "parentTables" then
      if hasKey "parentTables" ms then none else parentsOfJson? value
    else parentsOfMembers? ms
termination_by structural ms => ms

/-- Read the children of a table from its members: none if there is no such member. -/
def childrenOfMembers? : List (String × Json) → Option (List ChildTable)
  | [] => some []
  | (key, value) :: ms =>
    if key == "childTables" then
      if hasKey "childTables" ms then none else childrenOfJson? value
    else childrenOfMembers? ms
termination_by structural ms => ms

/-- Read an array of parents. -/
def parentsOfJson? : Json → Option (List ParentTable)
  | .arr items => parentsOfItems? items
  | _ => none
termination_by structural j => j

/-- Read an array of children. -/
def childrenOfJson? : Json → Option (List ChildTable)
  | .arr items => childrenOfItems? items
  | _ => none
termination_by structural j => j

/-- Read the parents in an array. -/
def parentsOfItems? : List Json → Option (List ParentTable)
  | [] => some []
  | item :: items => do
    let parent ← parentOfJson? item
    let parents ← parentsOfItems? items
    return parent :: parents
termination_by structural items => items

/-- Read the children in an array. -/
def childrenOfItems? : List Json → Option (List ChildTable)
  | [] => some []
  | item :: items => do
    let child ← childOfJson? item
    let children ← childrenOfItems? items
    return child :: children
termination_by structural items => items

/-- Read a parent. -/
def parentOfJson? : Json → Option ParentTable
  | .obj ms => do
    let link ← ParentLink.ofMembers? ms
    let core ← TableCore.ofMembers? ms
    let parents ← parentsOfMembers? ms
    let children ← childrenOfMembers? ms
    if othersReadable ParentLink.keys ms then
      return ⟨link, core.withTables parents children⟩
    else none
  | _ => none
termination_by structural j => j

/-- Read a child. -/
def childOfJson? : Json → Option ChildTable
  | .obj ms => do
    let link ← ChildLink.ofMembers? ms
    let core ← TableCore.ofMembers? ms
    let parents ← parentsOfMembers? ms
    let children ← childrenOfMembers? ms
    if othersReadable ChildLink.keys ms then
      return ⟨link, core.withTables parents children⟩
    else none
  | _ => none
termination_by structural j => j

end

/-- Read a parent table. -/
def ParentTable.ofJson? : Json → Option ParentTable := parentOfJson?

/-- Read a child table. -/
def ChildTable.ofJson? : Json → Option ChildTable := childOfJson?

/-- Read a table. -/
def TableSpec.ofJson? (j : Json) : Option TableSpec := do
  let ms ← recordMembers
    ["table", "alias", "fieldExpressions", "parentTables", "childTables", "recordCondition",
      "resultTypeName"] j
  let core ← TableCore.ofMembers? ms
  let parents ← parentsOfMembers? ms
  let children ← childrenOfMembers? ms
  return core.withTables parents children

/-- Read an additional column. -/
def AdditionalColumn.ofJson? (j : Json) : Option AdditionalColumn :=
  whole (fun
    | .str name => some (.property name)
    | .obj ms => do
      let property ← required ms "property" asString
      let aliasName ← required ms "as" asString
      return .aliased property aliasName
    | _ => none) j

/-- Read a query. -/
def Query.ofJson? (j : Json) : Option Query := do
  let ms ← recordMembers
    ["queryName", "tableJson", "resultRepresentations", "generateResultTypes",
      "propertyNameDefault", "orderBy", "forUpdate", "additionalObjectPropertyColumns",
      "typesFileHeader"] j
  let name ← required ms "queryName" asString
  let table ← required ms "tableJson" TableSpec.ofJson?
  let representations ←
    optional ms "resultRepresentations" (asList (asEnum Representation.names))
  let generateResultTypes ← optional ms "generateResultTypes" asBool
  let propertyNaming ← optional ms "propertyNameDefault" (asEnum PropertyNaming.names)
  let orderBy ← optional ms "orderBy" asString
  let forUpdate ← optional ms "forUpdate" asBool
  let additionalColumns ←
    defaulted ms "additionalObjectPropertyColumns" [] (asList AdditionalColumn.ofJson?)
  let typesFileHeader ← optional ms "typesFileHeader" asString
  return ⟨name, table, representations, generateResultTypes, propertyNaming, orderBy, forUpdate,
    additionalColumns, typesFileHeader⟩

/-- Read a query group. -/
def QueryGroup.ofJson? (j : Json) : Option QueryGroup := do
  let ms ← recordMembers
    ["defaultSchema", "propertyNameDefault", "generateUnqualifiedNamesForSchemas", "querySpecs"] j
  let defaultSchema ← optional ms "defaultSchema" asString
  let propertyNaming ← optional ms "propertyNameDefault" (asEnum PropertyNaming.names)
  let unqualifiedSchemas ←
    defaulted ms "generateUnqualifiedNamesForSchemas" [] (asList asString)
  let queries ← required ms "querySpecs" (asList Query.ofJson?)
  return ⟨defaultSchema, propertyNaming, unqualifiedSchemas, queries⟩

/-! ### Writing -/

/-- The member for a language, if there is a type for it. -/
def SourceType.languageMember (key : String) : Option String → List (String × Json)
  | some type => [(key, .str type)]
  | none => []

/-- Write a declared type. -/
def SourceType.toJson : SourceType → Json
  | uniform type => .str type
  | perLanguage typeScript java =>
    .obj (languageMember "TS" typeScript ++ languageMember "Java" java)

/-- Write the details of a field entry. -/
def FieldDetail.toJson (detail : FieldDetail) : Json :=
  .obj [
    ("field", ofOption .str detail.field),
    ("expression", ofOption .str detail.expression),
    ("jsonProperty", ofOption .str detail.jsonProperty),
    ("fieldTypeInGeneratedSource", ofOption SourceType.toJson detail.sourceType),
    ("withTableAliasAs", ofOption .str detail.placeholder),
    ("displayOrder", ofOption ofWord detail.displayOrder)]

/-- Write a field entry. -/
def FieldEntry.toJson : FieldEntry → Json
  | named field => .str field
  | detailed detail => detail.toJson

/-- Write a record condition. -/
def RecordCondition.toJson (condition : RecordCondition) : Json :=
  .obj [
    ("sql", .str condition.sql),
    ("paramNames", ofList .str condition.paramNames),
    ("withTableAliasAs", ofOption .str condition.placeholder)]

/-- Write a pair of equated fields. -/
def CustomMatch.pairToJson (pair : FieldPair) : Json :=
  .obj [("childField", .str pair.child), ("parentPrimaryKeyField", .str pair.parent)]

/-- Write a custom match. -/
def CustomMatch.toJson (custom : CustomMatch) : Json :=
  .obj [
    ("equatedFields", ofList CustomMatch.pairToJson custom.equated),
    ("matchAlwaysExists", ofOption .bool custom.alwaysExists)]

/-- The members that say how a parent is attached. -/
def ParentLink.members (link : ParentLink) : List (String × Json) := [
  ("referenceName", ofOption .str link.referenceName),
  ("viaForeignKeyFields", ofOption (ofList .str) link.foreignKeyFields),
  ("customMatchCondition", ofOption CustomMatch.toJson link.customMatch),
  ("subqueryAlias", ofOption .str link.subqueryAlias),
  ("displayOrder", ofOption ofWord link.displayOrder)]

/-- The members that say how a child is attached. -/
def ChildLink.members (link : ChildLink) : List (String × Json) := [
  ("collectionName", .str link.collectionName),
  ("foreignKeyFields", ofOption (ofList .str) link.foreignKeyFields),
  ("customMatchCondition", ofOption CustomMatch.toJson link.customMatch),
  ("filter", ofOption .str link.filter),
  ("unwrap", ofOption .bool link.unwrap),
  ("orderBy", ofOption .str link.orderBy),
  ("displayOrder", ofOption ofWord link.displayOrder)]

mutual

/-- The members of a table. -/
def TableSpec.members : TableSpec → List (String × Json)
  | ⟨table, aliasName, fields, parents, children, condition, resultTypeName⟩ => [
    ("table", .str table),
    ("alias", ofOption .str aliasName),
    ("fieldExpressions", ofList FieldEntry.toJson fields),
    ("parentTables", .arr (ParentTable.itemsToJson parents)),
    ("childTables", .arr (ChildTable.itemsToJson children)),
    ("recordCondition", ofOption RecordCondition.toJson condition),
    ("resultTypeName", ofOption .str resultTypeName)]
termination_by structural spec => spec

/-- Write parents: one object with the members of the table and those of the link. -/
def ParentTable.itemsToJson : List ParentTable → List Json
  | [] => []
  | ⟨link, spec⟩ :: parents =>
    .obj (spec.members ++ link.members) :: ParentTable.itemsToJson parents
termination_by structural parents => parents

/-- Write children: one object with the members of the table and those of the link. -/
def ChildTable.itemsToJson : List ChildTable → List Json
  | [] => []
  | ⟨link, spec⟩ :: children =>
    .obj (spec.members ++ link.members) :: ChildTable.itemsToJson children
termination_by structural children => children

end

/-- Write a table. -/
def TableSpec.toJson (spec : TableSpec) : Json := .obj spec.members

/-- Write an additional column. -/
def AdditionalColumn.toJson : AdditionalColumn → Json
  | .property name => .str name
  | .aliased name aliasName => .obj [("property", .str name), ("as", .str aliasName)]

/-- Write a representation. -/
def Representation.toJson (representation : Representation) : Json := .str representation.label

/-- Write a way to derive property names. -/
def PropertyNaming.toJson (naming : PropertyNaming) : Json := .str naming.label

/-- Write a query. -/
def Query.toJson (query : Query) : Json :=
  .obj [
    ("queryName", .str query.name),
    ("tableJson", query.table.toJson),
    ("resultRepresentations", ofOption (ofList Representation.toJson) query.representations),
    ("generateResultTypes", ofOption .bool query.generateResultTypes),
    ("propertyNameDefault", ofOption PropertyNaming.toJson query.propertyNaming),
    ("orderBy", ofOption .str query.orderBy),
    ("forUpdate", ofOption .bool query.forUpdate),
    ("additionalObjectPropertyColumns", ofList AdditionalColumn.toJson query.additionalColumns),
    ("typesFileHeader", ofOption .str query.typesFileHeader)]

/-- Write a query group. -/
def QueryGroup.toJson (group : QueryGroup) : Json :=
  .obj [
    ("defaultSchema", ofOption .str group.defaultSchema),
    ("propertyNameDefault", ofOption PropertyNaming.toJson group.propertyNaming),
    ("generateUnqualifiedNamesForSchemas", ofList .str group.unqualifiedSchemas),
    ("querySpecs", ofList Query.toJson group.queries)]

end NestedQuery
