import NestedQuery.Plan.Basic
import NestedQuery.Schema.Lookup
import NestedQuery.Spec.Error

/-!
# Resolving specifications

A specification is resolved against a schema snapshot. For each table the field entries come first,
then the inline parents, the referenced parents and the children, each with everything below it; the
first fault met in this order is reported.

## Main Definitions

* `Resolver`: a snapshot with the settings that decide what names mean
* `Resolver.table`, `Resolver.fieldEntry`, `Resolver.parentMatch`, `Resolver.childPairs`: single
  steps
* `Resolver.plan`: the plan of a specification
-/

namespace NestedQuery

open Text (inQuotes)

/-- What the names of a specification are resolved against. -/
structure Resolver where
  database : Database
  /-- The schema of tables named without one. -/
  defaultSchema : Option String
  naming : PropertyNaming

namespace Resolver

variable (r : Resolver)

/-! ### Tables and fields -/

/-- The relation that a table name stands for. A name without schema stands for nothing unless
there is a default schema. -/
def relation? (table : String) : Option Relation :=
  match r.database.relationId table r.defaultSchema with
  | .ok id => if id.schema.isSome then r.database.relation? id else none
  | .error _ => none

/-- Resolve a table name. -/
def table (location : Location) (table : String) : Except SpecError Relation :=
  match r.relation? table with
  | some relation => .ok relation
  | none => .error ⟨location, .tableNotFound table⟩

/-- Resolve a field name. -/
def field (location : Location) (relation : Relation) (name : String) :
    Except SpecError Field :=
  match r.database.field? relation name with
  | some field => .ok field
  | none => .error ⟨location, .fieldNotFound relation.id name⟩

/-- The property name of a field that is given none. -/
def propertyName (field : String) : String :=
  r.naming.propertyName r.database.casePolicy field

/-- Resolve the entry of a field list that names a field. -/
def fieldProperty (location : Location) (relation : Relation) (name : String)
    (property : Option String) (sourceType : Option SourceType) (displayOrder : Option UInt32) :
    Except SpecError PlannedField := do
  let field ← r.field location relation name
  return ⟨property.getD (r.propertyName name), .field field, sourceType, displayOrder⟩

/-- Resolve the entry of a field list that holds an expression, which needs a property name and a
declared type. -/
def expressionProperty (location : Location) (sql : String) (detail : FieldDetail) :
    Except SpecError PlannedField :=
  match detail.jsonProperty, detail.sourceType with
  | none, _ => .error ⟨location, .missingJsonProperty sql⟩
  | some _, none => .error ⟨location, .missingSourceType sql⟩
  | some name, some sourceType =>
    .ok ⟨name, .expression sql (detail.placeholder.getD defaultPlaceholder), some sourceType,
      detail.displayOrder⟩

/-- Resolve an entry of a field list. -/
def fieldEntry (location : Location) (relation : Relation) : FieldEntry →
    Except SpecError PlannedField
  | .named name => r.fieldProperty location relation name none none none
  | .detailed detail =>
    match detail.field, detail.expression with
    | some name, none =>
      r.fieldProperty location relation name detail.jsonProperty detail.sourceType
        detail.displayOrder
    | none, some sql => expressionProperty location sql detail
    | _, _ => .error ⟨location, .conflictingFieldAndExpression⟩

/-- How the entry at a position of a field list is described. -/
def fieldEntryPart (table : String) (position : Nat) : String :=
  "fieldExpressions entry #" ++ toString (position + 1) ++ " of table " ++ inQuotes table

/-- Resolve the field list of a table. -/
def fieldEntries (location : Location) (table : String) (relation : Relation)
    (entries : List FieldEntry) : Except SpecError (List PlannedField) :=
  entries.zipIdx.mapM fun (entry, position) =>
    r.fieldEntry (location.enter (fieldEntryPart table position)) relation entry

/-! ### Links -/

/-- Resolve a pair of equated fields. -/
def equatedPair (location : Location) (child parent : Relation) (pair : FieldPair) :
    Except SpecError FieldPair :=
  match r.database.field? child pair.child with
  | none => .error ⟨location, .invalidCustomMatch (.childFieldNotFound pair.child child.id)⟩
  | some childField =>
    match r.database.field? parent pair.parent with
    | none => .error ⟨location, .invalidCustomMatch (.parentFieldNotFound pair.parent parent.id)⟩
    | some parentField => .ok ⟨childField.name, parentField.name⟩

/-- The fields that a custom match equates. -/
def customPairs (location : Location) (child parent : Relation) (custom : CustomMatch) :
    Except SpecError (List FieldPair) :=
  let location := location.enter "custom match condition"
  if custom.equated.isEmpty then .error ⟨location, .invalidCustomMatch .nothingEquated⟩
  else custom.equated.mapM (r.equatedPair location child parent)

/-- The fields that the foreign key between two relations equates. -/
def foreignKeyPairs (location : Location) (child parent : Relation)
    (fields : Option (List String)) : Except SpecError (List FieldPair) :=
  match r.database.foreignKey? child.id parent.id fields with
  | .error _ => .error ⟨location, .ambiguousForeignKey child.id parent.id⟩
  | .ok none => .error ⟨location, .foreignKeyNotFound child.id parent.id fields⟩
  | .ok (some key) => .ok key.columns

/-- The fields equated between a child and a parent: those of the custom match if there is one,
else those of the foreign key. -/
def linkPairs (location : Location) (child parent : Relation) (custom : Option CustomMatch)
    (fields : Option (List String)) : Except SpecError (List FieldPair) :=
  match custom with
  | some custom =>
    if fields.isSome then .error ⟨location, .foreignKeyFieldsWithCustomMatch⟩
    else r.customPairs location child parent custom
  | none => r.foreignKeyPairs location child parent fields

/-- Whether every row of a child is certain to have a row of its parent: never under a condition on
the parent's records, with a custom match if the specification says so, and with a foreign key if
one of the child's fields cannot be null. -/
def guaranteed (child : Relation) (pairs : List FieldPair) (custom : Option CustomMatch)
    (parentHasCondition : Bool) : Bool :=
  if parentHasCondition then false
  else
    match custom with
    | some custom => custom.alwaysExists.getD false
    | none => pairs.any fun pair => (child.field? pair.child).bind (·.nullable) == some false

/-- How the rows of a table are matched with those of a parent. -/
def parentMatch (location : Location) (child parent : Relation) (link : ParentLink)
    (parentHasCondition : Bool) : Except SpecError RowMatch := do
  let pairs ← r.linkPairs location child parent link.customMatch link.foreignKeyFields
  return ⟨pairs, guaranteed child pairs link.customMatch parentHasCondition⟩

/-- How the rows of a child are matched with those of a table. -/
def childPairs (location : Location) (child parent : Relation) (link : ChildLink) :
    Except SpecError (List FieldPair) :=
  r.linkPairs location child parent link.customMatch link.foreignKeyFields

/-! ### Table trees -/

/-- How an inline parent is described. -/
def inlineParentPart (table : String) : String := "parent table " ++ inQuotes table

/-- How a referenced parent is described. -/
def referencePart (table name : String) : String :=
  "parent table " ++ inQuotes table ++ " via " ++ name

/-- How a child is described. -/
def collectionPart (table name : String) : String :=
  "collection " ++ inQuotes name ++ " of " ++ inQuotes table ++ " records"

mutual

/-- The plan of a table whose relation is known. -/
def planTable (location : Location) (relation : Relation) :
    TableSpec → Except SpecError TablePlan
  | ⟨table, aliasName, fields, parents, children, condition, resultTypeName⟩ => do
    let fields ← r.fieldEntries location table relation fields
    let inlined ← planInlined location relation parents
    let references ← planReferences location relation parents
    let collections ← planCollections location relation children
    let plan : TablePlan :=
      ⟨⟨relation.id, relation.keyFields.map (·.name), table, aliasName, condition, resultTypeName,
        fields⟩, inlined, references, collections⟩
    if plan.propertyCount = 0 then .error ⟨location, .emptySelectList⟩ else .ok plan
termination_by structural spec => spec

/-- The plans of the inline ones of some parents. -/
def planInlined (location : Location) (relation : Relation) :
    List ParentTable → Except SpecError (List InlinedParent)
  | [] => .ok []
  | ⟨link, spec⟩ :: parents =>
    match link.referenceName with
    | some _ => planInlined location relation parents
    | none => do
      let here := location.enter (inlineParentPart spec.table)
      let parent ← r.table here spec.table
      let matching ← r.parentMatch here relation parent link spec.condition.isSome
      let plan ← planTable here parent spec
      let others ← planInlined location relation parents
      return ⟨⟨matching, link.subqueryAlias⟩, plan⟩ :: others
termination_by structural parents => parents

/-- The plans of the referenced ones of some parents. -/
def planReferences (location : Location) (relation : Relation) :
    List ParentTable → Except SpecError (List Reference)
  | [] => .ok []
  | ⟨link, spec⟩ :: parents =>
    match link.referenceName with
    | none => planReferences location relation parents
    | some name => do
      let here := location.enter (referencePart spec.table name)
      let parent ← r.table here spec.table
      let matching ← r.parentMatch here relation parent link spec.condition.isSome
      let plan ← planTable here parent spec
      let others ← planReferences location relation parents
      return ⟨⟨name, matching, link.displayOrder⟩, plan⟩ :: others
termination_by structural parents => parents

/-- The plans of some children. The elements of a collection are bare values only if they have just
one property. -/
def planCollections (location : Location) (relation : Relation) :
    List ChildTable → Except SpecError (List Collection)
  | [] => .ok []
  | ⟨link, spec⟩ :: children => do
    let here := location.enter (collectionPart spec.table link.collectionName)
    let child ← r.table here spec.table
    let pairs ← r.childPairs here child relation link
    let plan ← planTable here child spec
    if link.unwraps && plan.propertyCount != 1 then
      .error ⟨here, .invalidUnwrap plan.propertyCount⟩
    else
      let others ← planCollections location relation children
      return ⟨⟨link.collectionName, pairs, link.filter, link.unwraps, link.orderBy,
        link.displayOrder⟩, plan⟩ :: others
termination_by structural children => children

end

/-- The plan of a specification. -/
def plan (location : Location) (spec : TableSpec) : Except SpecError TablePlan := do
  let relation ← r.table location spec.table
  r.planTable location relation spec

end Resolver

end NestedQuery
