import NestedQuery.Plan.Walk
import NestedQuery.ResultType.Basic

/-!
# Making result types

## Main Definitions

* `resultTypeFold`: how the walk over a specification makes a result type
* `ResultType.declared`: the types to declare for a type
* `TableSpec.resultTypes`: the types to declare for a specification
* `TablePlan.resultType`: the type of the values for a plan, without a walk
-/

namespace NestedQuery

/-- The facts about a field. -/
def Field.facts (field : Field) : ColumnFacts :=
  ⟨field.name, field.databaseType, field.length, field.precision, field.fractionalDigits⟩

/-- The property that comes from the table itself. -/
def PlannedField.property (planned : PlannedField) : Property :=
  match planned.source with
  | .field field => .field planned.name field.facts field.nullable planned.sourceType
  | .expression sql _ => .expression planned.name sql planned.sourceType

/-- A property of an inline parent as a property of the table: it can be missing unless every row
is certain to have a parent row. -/
def RowMatch.lift (matching : RowMatch) (property : Property) : Property :=
  if matching.guaranteed then property else property.toNullable

/-- The type of a table's values from its properties. -/
def TableHead.resultType (head : TableHead) (query : String) (unwrapped : Bool)
    (properties : List Property) : ResultType :=
  ⟨query, head.relation, head.resultTypeName, unwrapped, properties⟩

/-- The property of a referenced parent. -/
def ReferenceLink.property (link : ReferenceLink) (type : ResultType) : Property :=
  .reference link.name type (!link.matching.guaranteed)

/-- The property of a child. -/
def CollectionLink.property (link : CollectionLink) (type : ResultType) : Property :=
  .collection link.name { type with unwrapped := link.unwrap } false

/-- How the walk over a specification makes a result type. -/
def resultTypeFold (query : String) : TableFold Unit Unit Property ResultType where
  start _ _ := ()
  fieldEntry _ field := field.property
  inlineSite _ _ _ := ((), ())
  inlineEntries _ link _ parent := ((), parent.properties.map link.matching.lift)
  referenceSite _ _ := ()
  referenceEntry _ link _ parent := link.property parent
  collectionSite _ _ := ()
  collectionEntry _ link _ child := link.property child
  finish head _ properties := head.resultType query false properties

/-! ### Plans -/

mutual

/-- The properties of a plan in display order, each with its display order. -/
def TablePlan.properties (query : String) : TablePlan → List (Option UInt32 × Property)
  | ⟨head, inlined, references, collections⟩ =>
    inDisplayOrder Prod.fst
      (head.fields.map (fun field => (field.displayOrder, field.property))
        ++ InlinedParent.properties query inlined
        ++ Reference.properties query references
        ++ Collection.properties query collections)
termination_by structural plan => plan

/-- The properties of inline parents. -/
def InlinedParent.properties (query : String) :
    List InlinedParent → List (Option UInt32 × Property)
  | [] => []
  | ⟨link, plan⟩ :: parents =>
    (plan.properties query).map (fun (order, property) => (order, link.matching.lift property))
      ++ InlinedParent.properties query parents
termination_by structural parents => parents

/-- The properties for referenced parents. -/
def Reference.properties (query : String) : List Reference → List (Option UInt32 × Property)
  | [] => []
  | ⟨link, plan⟩ :: references =>
    (link.displayOrder,
      link.property (plan.head.resultType query false ((plan.properties query).map Prod.snd)))
      :: Reference.properties query references
termination_by structural references => references

/-- The properties for children. -/
def Collection.properties (query : String) : List Collection → List (Option UInt32 × Property)
  | [] => []
  | ⟨link, plan⟩ :: collections =>
    (link.displayOrder,
      link.property (plan.head.resultType query false ((plan.properties query).map Prod.snd)))
      :: Collection.properties query collections
termination_by structural collections => collections

end

/-- The type of the values for a plan. -/
def TablePlan.resultType (query : String) (plan : TablePlan) : ResultType :=
  plan.head.resultType query false ((plan.properties query).map Prod.snd)

/-! ### Declared types -/

mutual

/-- The types to declare for the parts of a type, in the order in which they are met: the types of
references, and those of the elements of collections unless they are unwrapped. -/
def ResultType.declared : ResultType → List ResultType
  | ⟨_, _, _, _, properties⟩ => Property.declaredAll properties
termination_by structural t => t

/-- The types to declare for some properties. -/
def Property.declaredAll : List Property → List ResultType
  | [] => []
  | property :: properties => property.declared ++ Property.declaredAll properties
termination_by structural properties => properties

/-- The types to declare for a property. -/
def Property.declared : Property → List ResultType
  | .field _ _ _ _ => []
  | .expression _ _ _ => []
  | .reference _ type _ => type :: type.declared
  | .collection _ element _ =>
    if element.unwrapped then element.declared else element :: element.declared
termination_by structural property => property

end

/-- The types to declare for a specification: the type of the result rows, then those of its
parts. -/
def TableSpec.resultTypes (r : Resolver) (query : String) (spec : TableSpec) :
    Except SpecError (List ResultType) := do
  let walked ← r.walk (resultTypeFold query) (Location.root query) () spec
  return walked.output :: walked.output.declared

end NestedQuery
