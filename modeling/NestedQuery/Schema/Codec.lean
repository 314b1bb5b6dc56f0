import NestedQuery.Json.Decode
import NestedQuery.Schema.Basic

/-!
# Schema snapshots as JSON

## Main Definitions

* `Database.ofJson?`, `Database.toJson`: read and write a snapshot
* `Relation.ofJson?`, `ForeignKey.ofJson?`: read its parts
-/

namespace NestedQuery

open Json

/-- The names of the case policies. -/
def CasePolicy.names : List (String × CasePolicy) := [
  ("INSENSITIVE_STORED_LOWER", .storedLower),
  ("INSENSITIVE_STORED_UPPER", .storedUpper),
  ("INSENSITIVE_STORED_MIXED", .storedMixed),
  ("SENSITIVE", .sensitive)]

/-- Read a case policy. -/
def CasePolicy.ofJson? : Json → Option CasePolicy := asEnum CasePolicy.names

/-- The name of a case policy. -/
def CasePolicy.label : CasePolicy → String
  | storedLower => "INSENSITIVE_STORED_LOWER"
  | storedUpper => "INSENSITIVE_STORED_UPPER"
  | storedMixed => "INSENSITIVE_STORED_MIXED"
  | sensitive => "SENSITIVE"

/-- The names of the kinds of relations. -/
def RelationKind.names : List (String × RelationKind) :=
  [("Table", .table), ("View", .view), ("Unknown", .unknown)]

/-- The name of a kind of relation. -/
def RelationKind.label : RelationKind → String
  | table => "Table"
  | view => "View"
  | unknown => "Unknown"

/-- Read a relation id. -/
def RelationId.ofJson? (j : Json) : Option RelationId := do
  let ms ← recordMembers ["schema", "name"] j
  let schema ← optional ms "schema" asString
  let name ← required ms "name" asString
  return ⟨schema, name⟩

/-- Write a relation id; an absent schema is left out. -/
def RelationId.toJson (id : RelationId) : Json :=
  match id.schema with
  | some schema => .obj [("schema", .str schema), ("name", .str id.name)]
  | none => .obj [("name", .str id.name)]

/-- Read a field. -/
def Field.ofJson? (j : Json) : Option Field := do
  let ms ← recordMembers
    ["name", "databaseType", "nullable", "primaryKeyPartNumber", "length", "precision",
      "precisionRadix", "fractionalDigits"] j
  let name ← required ms "name" asString
  let databaseType ← required ms "databaseType" asString
  let nullable ← optional ms "nullable" asBool
  let keyPart ← optional ms "primaryKeyPartNumber" asWord
  let length ← optional ms "length" asWord
  let precision ← optional ms "precision" asWord
  let precisionRadix ← optional ms "precisionRadix" asWord
  let fractionalDigits ← optional ms "fractionalDigits" asSigned
  return ⟨name, databaseType, nullable, keyPart, length, precision, precisionRadix,
    fractionalDigits⟩

/-- Write a field. -/
def Field.toJson (field : Field) : Json :=
  .obj [
    ("name", .str field.name),
    ("databaseType", .str field.databaseType),
    ("nullable", ofOption .bool field.nullable),
    ("primaryKeyPartNumber", ofOption ofWord field.keyPart),
    ("length", ofOption ofWord field.length),
    ("precision", ofOption ofWord field.precision),
    ("precisionRadix", ofOption ofWord field.precisionRadix),
    ("fractionalDigits", ofOption ofSigned field.fractionalDigits)]

/-- Read a relation. -/
def Relation.ofJson? (j : Json) : Option Relation := do
  let ms ← recordMembers ["relationId", "relationType", "fields"] j
  let id ← required ms "relationId" RelationId.ofJson?
  let kind ← required ms "relationType" (asEnum RelationKind.names)
  let fields ← required ms "fields" (asList Field.ofJson?)
  return ⟨id, kind, fields⟩

/-- Write a relation. -/
def Relation.toJson (relation : Relation) : Json :=
  .obj [
    ("relationId", relation.id.toJson),
    ("relationType", .str relation.kind.label),
    ("fields", ofList Field.toJson relation.fields)]

/-- Read the pair of fields of one column of a foreign key. -/
def ForeignKey.columnOfJson? (j : Json) : Option FieldPair := do
  let ms ← recordMembers ["foreignKeyFieldName", "primaryKeyFieldName"] j
  let child ← required ms "foreignKeyFieldName" asString
  let parent ← required ms "primaryKeyFieldName" asString
  return ⟨child, parent⟩

/-- Write the pair of fields of one column of a foreign key. -/
def ForeignKey.columnToJson (pair : FieldPair) : Json :=
  .obj [("foreignKeyFieldName", .str pair.child), ("primaryKeyFieldName", .str pair.parent)]

/-- Read a foreign key. -/
def ForeignKey.ofJson? (j : Json) : Option ForeignKey := do
  let ms ← recordMembers
    ["constraintName", "foreignKeyRelationId", "primaryKeyRelationId", "foreignKeyComponents"] j
  let constraintName ← optional ms "constraintName" asString
  let child ← required ms "foreignKeyRelationId" RelationId.ofJson?
  let parent ← required ms "primaryKeyRelationId" RelationId.ofJson?
  let columns ← required ms "foreignKeyComponents" (asList ForeignKey.columnOfJson?)
  return ⟨constraintName, child, parent, columns⟩

/-- Write a foreign key. -/
def ForeignKey.toJson (key : ForeignKey) : Json :=
  .obj [
    ("constraintName", ofOption .str key.constraintName),
    ("foreignKeyRelationId", key.child.toJson),
    ("primaryKeyRelationId", key.parent.toJson),
    ("foreignKeyComponents", ofList ForeignKey.columnToJson key.columns)]

/-- Read a schema snapshot. -/
def Database.ofJson? (j : Json) : Option Database := do
  let ms ← recordMembers
    ["dbmsName", "dbmsVersion", "caseSensitivity", "relationMetadatas", "foreignKeys"] j
  let productName ← required ms "dbmsName" asString
  let productVersion ← required ms "dbmsVersion" asString
  let casePolicy ← required ms "caseSensitivity" CasePolicy.ofJson?
  let relations ← required ms "relationMetadatas" (asList Relation.ofJson?)
  let foreignKeys ← required ms "foreignKeys" (asList ForeignKey.ofJson?)
  return ⟨productName, productVersion, casePolicy, relations, foreignKeys⟩

/-- Write a schema snapshot. -/
def Database.toJson (db : Database) : Json :=
  .obj [
    ("dbmsName", .str db.productName),
    ("dbmsVersion", .str db.productVersion),
    ("caseSensitivity", .str db.casePolicy.label),
    ("relationMetadatas", ofList Relation.toJson db.relations),
    ("foreignKeys", ofList ForeignKey.toJson db.foreignKeys)]

end NestedQuery
