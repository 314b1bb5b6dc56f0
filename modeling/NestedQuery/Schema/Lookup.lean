import NestedQuery.Schema.Basic

/-!
# Looking things up in a schema snapshot

Names come as users write them and are compared in their stored form.

## Main Definitions

* `Database.relationId`: the relation id that a written table name stands for
* `Database.relation?`: a relation by its id
* `Database.field?`: a field of a relation by its written name
* `Database.foreignKey?`: the foreign key between two relations, if there is just one
* `DatabaseError`: why a lookup fails
-/

namespace NestedQuery

/-- Why something cannot be had from a schema snapshot. -/
inductive DatabaseError where
  /-- The document of the snapshot cannot be read. -/
  | malformed
  | invalidTableName (table : String)
  | relationNotFound (relation : RelationId)
  /-- Several foreign keys qualify; `fieldsGiven` tells whether their fields were restricted. -/
  | ambiguousForeignKey (child parent : RelationId) (fieldsGiven : Bool)
deriving DecidableEq, Repr

/-- The text of an error. -/
def DatabaseError.message : DatabaseError → String
  | malformed => "Invalid database metadata"
  | invalidTableName table => "Invalid table name: '" ++ table ++ "'"
  | relationNotFound relation =>
    "Relation metadata not found for relation '" ++ relation.text ++ "'"
  | ambiguousForeignKey child parent fieldsGiven =>
    "Multiple foreign key constraints exist from table " ++ child.text ++ " to table "
      ++ parent.text ++ " "
      ++ (if fieldsGiven then "with the same specified foreign key fields"
          else "and no foreign key fields were specified to disambiguate")

/-- Whether a foreign key has exactly the given child fields: as many columns as there are
different names, all of them among the names. -/
def ForeignKey.hasChildFields (key : ForeignKey) (names : List String) : Bool :=
  key.columns.length == names.eraseDups.length
    && key.columns.all (fun pair => names.contains pair.child)

namespace Database

variable (db : Database)

/-- The stored form of a written name. -/
def exact (name : String) : String := db.casePolicy.exact name

/-- The relation id that a written table name stands for. A name without a schema takes the
default schema, if there is one. -/
def relationId (table : String) (defaultSchema : Option String) :
    Except DatabaseError RelationId :=
  match QualifiedName.split table with
  | some written =>
    .ok ⟨(written.schema.or defaultSchema).map db.exact, db.exact written.name⟩
  | none => .error (.invalidTableName table)

/-- The relation with the given id; of several, the last one. -/
def relation? (id : RelationId) : Option Relation :=
  db.relations.reverse.find? (·.id == id)

/-- The field that a written name stands for. -/
def field? (relation : Relation) (name : String) : Option Field :=
  relation.field? (db.exact name)

/-- The names of the fields of a relation's primary key, in key order. -/
def keyFieldNames (id : RelationId) : Except DatabaseError (List String) :=
  match db.relation? id with
  | some relation => .ok (relation.keyFields.map (·.name))
  | none => .error (.relationNotFound id)

/-- The foreign keys from a child relation to a parent relation. -/
def foreignKeysBetween (child parent : RelationId) : List ForeignKey :=
  db.foreignKeys.filter fun key => key.child == child && key.parent == parent

/-- The foreign keys between two relations that have exactly the given child fields, if fields are
given. -/
def qualifyingKeys (child parent : RelationId) (fields : Option (List String)) :
    List ForeignKey :=
  (db.foreignKeysBetween child parent).filter fun key =>
    match fields with
    | some names => key.hasChildFields (names.map db.exact)
    | none => true

/-- The one foreign key from a child relation to a parent relation, restricted to given child fields
if there are any. There may be none, and there must not be several. -/
def foreignKey? (child parent : RelationId) (fields : Option (List String)) :
    Except DatabaseError (Option ForeignKey) :=
  match db.qualifyingKeys child parent fields with
  | [] => .ok none
  | [key] => .ok (some key)
  | _ => .error (.ambiguousForeignKey child parent fields.isSome)

end Database

end NestedQuery
