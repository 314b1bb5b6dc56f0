import NestedQuery.ResultType.Basic
import NestedQuery.Spec.Error
import NestedQuery.Text.Words

/-!
# Names of result types

Equal types are declared once. A type has the name that the specification gives it, or else one
made from the name of its table.

## Main Definitions

* `BucketKey`, `Buckets`: an index of types by their tables and the numbers of their properties
* `NamedTypes`: types with their names, and their index
* `NamedTypes.assign`: name the types of a list
* `NamedTypes.nameOf?`: the name of a type

## Design Notes

To compare two types takes as long as they are deep. A type is therefore compared only with the
declared ones that have the same key.
-/

namespace NestedQuery

/-! ### The index -/

/-- The kinds of properties. -/
inductive PropertyKind where
  | field
  | expression
  | reference
  | collection
deriving DecidableEq, Repr

/-- The kind of a property. -/
def Property.kind : Property → PropertyKind
  | field _ _ _ _ => .field
  | expression _ _ _ => .expression
  | reference _ _ _ => .reference
  | collection _ _ _ => .collection

/-- What is compared first of two types. -/
structure BucketKey where
  relation : RelationId
  fieldCount : Nat
  expressionCount : Nat
  referenceCount : Nat
  collectionCount : Nat
deriving DecidableEq, Repr

/-- The number of properties of a kind. -/
def ResultType.count (type : ResultType) (kind : PropertyKind) : Nat :=
  type.properties.countP (·.kind = kind)

/-- The key of a type: its table, and the number of its properties of each kind. -/
def ResultType.bucketKey (type : ResultType) : BucketKey :=
  ⟨type.relation, type.count .field, type.count .expression, type.count .reference,
    type.count .collection⟩

/-- Positions by key, those of a key in the order in which they were added. -/
abbrev Buckets := List (BucketKey × List Nat)

namespace Buckets

/-- The positions for a key. -/
def positions (buckets : Buckets) (key : BucketKey) : List Nat :=
  (buckets.lookup key).getD []

/-- Add a position to those for a key. -/
def push (key : BucketKey) (position : Nat) : Buckets → Buckets
  | [] => [(key, [position])]
  | (other, positions) :: buckets =>
    if other = key then (other, positions ++ [position]) :: buckets
    else (other, positions) :: push key position buckets

end Buckets

/-! ### Named types -/

/-- Different types with their names. -/
structure NamedTypes where
  /-- The names and types, in the order of declaration. -/
  entries : List (String × ResultType)
  /-- The positions of the types, by their keys. -/
  buckets : Buckets

namespace NamedTypes

/-- No types. -/
def empty : NamedTypes := ⟨[], []⟩

/-- The names in use. -/
def names (named : NamedTypes) : List String := named.entries.map Prod.fst

/-- One more type with its name. -/
def declare (named : NamedTypes) (name : String) (type : ResultType) : NamedTypes :=
  ⟨named.entries ++ [(name, type)], named.buckets.push type.bucketKey named.entries.length⟩

/-- The name of the type equal to the given one. -/
def nameOf? (named : NamedTypes) (type : ResultType) : Option String :=
  (((named.buckets.positions type.bucketKey).filterMap (named.entries[·]?)).find?
    (fun entry => entry.2 == type)).map Prod.fst

/-- Name one more type, unless it has a name already. A name that the specification gives must not
be that of another type. -/
def add (query : String) (taken : List String) (named : NamedTypes) (type : ResultType) :
    Except SpecError (List String × NamedTypes) :=
  if (named.nameOf? type).isSome then .ok (taken, named)
  else
    match type.typeName with
    | some name =>
      if named.names.contains name then
        .error ⟨Location.root query, .conflictingResultTypeName name⟩
      else .ok (name :: taken, named.declare name type)
    | none =>
      let name := Text.freshName (Text.upperCamel type.relation.name) "_" taken
      .ok (name :: taken, named.declare name type)

/-- Name the types of a list one after the other. -/
def addAll (query : String) (taken : List String) (named : NamedTypes) :
    List ResultType → Except SpecError NamedTypes
  | [] => .ok named
  | type :: types =>
    match add query taken named type with
    | .error e => .error e
    | .ok (taken, named) => addAll query taken named types

/-- The different types of a list with their names. The names that the specification gives are taken
from the start. -/
def assign (query : String) (types : List ResultType) : Except SpecError NamedTypes :=
  addAll query (types.filterMap (·.typeName)) empty types

end NamedTypes

end NestedQuery
