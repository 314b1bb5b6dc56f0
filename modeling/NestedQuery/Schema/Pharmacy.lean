import NestedQuery.Schema.Basic

/-!
# A pharmaceutical schema

A small schema to try queries on. Compounds have two foreign keys to analysts, one of them nullable;
brands have a primary key of two fields; it is not known whether the therapeutic indications of a
drug may be null.

## Main Definitions

* `Pharmacy.lowerCase`: the schema as a database reports it that stores names in lower case
* `Pharmacy.upperCase`: the same for a database that stores them in upper case
-/

namespace NestedQuery.Pharmacy

/-- The schema of all relations. -/
def schema : String := "drugs"

/-- A field without sizes. -/
def field (name databaseType : String) (nullable : Bool) : Field :=
  ⟨name, databaseType, some nullable, none, none, none, none, none⟩

/-- An integer field of 32 bits. -/
def intField (name : String) (nullable : Bool) : Field :=
  { field name "int4" nullable with
    precision := some 32, precisionRadix := some 2, fractionalDigits := some 0 }

/-- An integer field of the primary key. -/
def keyField (name : String) (part : UInt32) : Field :=
  { intField name false with keyPart := some part }

/-- A field for text up to a length. -/
def textField (name : String) (length : UInt32) (nullable : Bool) : Field :=
  { field name "varchar" nullable with length := some length }

/-- A table of the schema. -/
def table (name : String) (fields : List Field) : Relation :=
  ⟨⟨some schema, name⟩, .table, fields⟩

/-- A foreign key of one column; the column gives the constraint its name. -/
def foreignKey (child parent childField parentField : String) : ForeignKey :=
  ⟨some (child ++ "_" ++ childField ++ "_fk"), ⟨some schema, child⟩, ⟨some schema, parent⟩,
    [⟨childField, parentField⟩]⟩

/-- The tables. -/
def relations : List Relation := [
  table "analyst" [
    keyField "id" 1,
    textField "short_name" 50 false],
  table "compound" [
    keyField "id" 1,
    textField "display_name" 50 true,
    textField "nctr_isis_id" 100 true,
    textField "cas" 50 true,
    intField "entered_by" false,
    intField "approved_by" true],
  table "drug" [
    keyField "id" 1,
    textField "name" 500 false,
    textField "description" 2000 true,
    textField "category_code" 1 false,
    textField "descr" 500 true,
    intField "compound_id" false,
    textField "mesh_id" 7 true,
    { field "therapeutic_indications" "text" true with nullable := none },
    field "cid" "int4" true,
    field "market_entry_date" "date" true,
    intField "registered_by" false,
    field "is_controlled" "bool" false,
    { field "unit_price" "numeric" true with
      precision := some 10, precisionRadix := some 10, fractionalDigits := some 2 },
    field "descr_json" "jsonb" true],
  table "advisory" [
    keyField "id" 1,
    intField "drug_id" false,
    intField "advisory_type_id" false,
    textField "text" 2000 false],
  table "advisory_type" [
    keyField "id" 1,
    textField "name" 50 false,
    intField "authority_id" false],
  table "authority" [
    keyField "id" 1,
    textField "name" 200 false,
    textField "url" 500 true,
    textField "description" 2000 true],
  table "manufacturer" [
    keyField "id" 1,
    textField "name" 200 false],
  table "brand" [
    keyField "drug_id" 1,
    keyField "manufacturer_id" 2,
    textField "brand_name" 200 false]]

/-- The foreign keys. -/
def foreignKeys : List ForeignKey := [
  foreignKey "compound" "analyst" "entered_by" "id",
  foreignKey "compound" "analyst" "approved_by" "id",
  foreignKey "drug" "compound" "compound_id" "id",
  foreignKey "drug" "analyst" "registered_by" "id",
  foreignKey "advisory" "drug" "drug_id" "id",
  foreignKey "advisory" "advisory_type" "advisory_type_id" "id",
  foreignKey "advisory_type" "authority" "authority_id" "id",
  foreignKey "brand" "drug" "drug_id" "id",
  foreignKey "brand" "manufacturer" "manufacturer_id" "id"]

/-- The schema in a PostgreSQL database. -/
def lowerCase : Database :=
  ⟨"PostgreSQL", "16.2", .storedLower, relations, foreignKeys⟩

/-- A relation id in upper case. -/
def upperId (id : RelationId) : RelationId :=
  ⟨id.schema.map Text.toUpper, Text.toUpper id.name⟩

/-- The schema in an Oracle database: the names of schemas, tables and fields in upper case. -/
def upperCase : Database where
  productName := "Oracle"
  productVersion := lowerCase.productVersion
  casePolicy := .storedUpper
  relations := relations.map fun relation =>
    { relation with
      id := upperId relation.id
      fields := relation.fields.map fun field => { field with name := Text.toUpper field.name } }
  foreignKeys := foreignKeys.map fun key =>
    { key with
      child := upperId key.child
      parent := upperId key.parent
      columns := key.columns.map fun pair =>
        ⟨Text.toUpper pair.child, Text.toUpper pair.parent⟩ }

end NestedQuery.Pharmacy
