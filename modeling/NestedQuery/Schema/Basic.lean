import NestedQuery.Name.Basic

/-!
# Schema snapshots

What is known about a database: its relations with their fields, and the foreign keys between them.

## Main Definitions

* `RelationId`, `Field`, `Relation`, `FieldPair`, `ForeignKey`, `Database`: the snapshot
* `sortBy`, `sortByKey`: sorting in which elements that compare as equal keep their order
* `Relation.field?`: a field by its stored name
* `Relation.keyFields`: the fields of the primary key, in key order
-/

namespace NestedQuery

/-- The stored name of a relation, with its schema if it has one. -/
structure RelationId where
  schema : Option String
  name : String
deriving DecidableEq, Repr, Inhabited

/-- A relation id as text: the name, after the schema and a dot if there is a schema. -/
def RelationId.text (id : RelationId) : String :=
  match id.schema with
  | some schema => schema ++ "." ++ id.name
  | none => id.name

/-- The kinds of relations. -/
inductive RelationKind where
  | table
  | view
  | unknown
deriving DecidableEq, Repr, Inhabited

/-- A field of a relation. What the database does not tell is absent. -/
structure Field where
  name : String
  databaseType : String
  nullable : Option Bool
  /-- The position of the field in the primary key, if it is part of it. -/
  keyPart : Option UInt32
  length : Option UInt32
  precision : Option UInt32
  precisionRadix : Option UInt32
  fractionalDigits : Option Int32
deriving DecidableEq, Repr, Inhabited

/-- A table or view with its fields. -/
structure Relation where
  id : RelationId
  kind : RelationKind
  fields : List Field
deriving DecidableEq, Repr, Inhabited

/-- A field of a child table and the field of the parent table that it is equated with. -/
structure FieldPair where
  child : String
  parent : String
deriving DecidableEq, Repr, Inhabited

/-- A foreign key: the fields of the child relation refer to those of the parent relation. -/
structure ForeignKey where
  constraintName : Option String
  child : RelationId
  parent : RelationId
  columns : List FieldPair
deriving DecidableEq, Repr, Inhabited

/-- A snapshot of a database's schema. -/
structure Database where
  productName : String
  productVersion : String
  casePolicy : CasePolicy
  relations : List Relation
  foreignKeys : List ForeignKey
deriving DecidableEq, Repr, Inhabited

/-! ### Sorting

Elements that compare as equal keep their order. Insertion needs nothing but the evaluation of its
definition, so that what is sorted can be computed in a proof as well. -/

/-- Put an element in front of the first one that it may precede. -/
def insertSorted (le : α → α → Bool) (x : α) : List α → List α
  | [] => [x]
  | y :: ys => if le x y then x :: y :: ys else y :: insertSorted le x ys

/-- The elements of a list in the order of a comparison. -/
def sortBy (le : α → α → Bool) : List α → List α
  | [] => []
  | x :: xs => insertSorted le x (sortBy le xs)

/-- The elements of a list in the order of their keys. -/
def sortByKey (key : α → Nat) : List α → List α :=
  sortBy fun x y => key x ≤ key y

/-! ### Fields and keys -/

namespace Relation

/-- The first field with the given stored name. -/
def field? (relation : Relation) (name : String) : Option Field :=
  relation.fields.find? (·.name == name)

/-- The fields of the primary key, in key order. -/
def keyFields (relation : Relation) : List Field :=
  sortByKey (fun field => (field.keyPart.map UInt32.toNat).getD 0)
    (relation.fields.filter (·.keyPart.isSome))

end Relation

/-- The fields of the child relation that make up a foreign key. -/
def ForeignKey.childFields (key : ForeignKey) : List String :=
  key.columns.map (·.child)

end NestedQuery
