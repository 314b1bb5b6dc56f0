import NestedQuery.Plan.Resolve

/-!
# Walking specifications

A walk goes through a table tree, resolves its tables one after the other and checks them. What is
made of them is left to a fold: an SQL statement, a result type. The order of the properties, the
check of unwrapped collections and the check that a table has properties belong to the walk, so that
they are the same whatever is made.

The properties of a table are shown in an order that users can influence: a property with a display
order goes by it, and one without goes by its place among the properties of the table.

## Main Definitions

* `displayKey`, `inDisplayOrder`: what properties are sorted by, and the properties in order
* `TableFold`: the steps in which something is made of a table tree
* `Walked`: what was made of a table, with the display orders of its properties
* `Resolver.walk`: the walk over a specification

## Design Notes

The walk counts what the fold hands to it. The properties of an inline parent are paired with the
display orders recorded for them, so a fold that lifts fewer entries than the parent has properties
loses the others without a fault.
-/

namespace NestedQuery

/-! ### Display order -/

/-- The sort key of the entry at a position: its display order, or the position counted from one,
which stops at the largest display order. -/
def displayKey (order : Option UInt32) (position : Nat) : Nat :=
  match order with
  | some order => order.toNat
  | none => min (position + 1) 4294967295

/-- Entries sorted by display order; entries with equal keys keep their order. -/
def inDisplayOrder (order : α → Option UInt32) (entries : List α) : List α :=
  (sortByKey Prod.fst
    (entries.zipIdx.map fun (entry, position) => (displayKey (order entry) position, entry))).map
    Prod.snd

/-! ### Folds over table trees -/

/-- What is known of a table from the link that leads to it. -/
structure LinkedTable where
  relation : RelationId
  /-- The names of the fields of the primary key, in key order. -/
  keyFields : List String
  /-- The table name as the specification has it. -/
  written : String
deriving DecidableEq, Repr

/-- A relation as the target of a link. -/
def Relation.linked (relation : Relation) (written : String) : LinkedTable :=
  ⟨relation.id, relation.keyFields.map (·.name), written⟩

/-- A table as the target of a link. -/
def TableHead.linked (head : TableHead) : LinkedTable :=
  ⟨head.relation, head.keyFields, head.written⟩

/-- The steps in which something is made of a table tree. A `Site` is what a table is told by the
table around it, a `Frame` is kept while the properties of a table are made, an `Entry` is one of
these properties, and an `Output` is what is made of a table. Only inline parents change the
frame. -/
structure TableFold (Site Frame Entry Output : Type) where
  start : TableHead → Site → Frame
  fieldEntry : Frame → PlannedField → Entry
  inlineSite : Frame → InlineLink → LinkedTable → Frame × Site
  /-- The properties of an inline parent, in the order in which the parent has them. -/
  inlineEntries : Frame → InlineLink → LinkedTable → Output → Frame × List Entry
  referenceSite : Frame → ReferenceLink → Site
  referenceEntry : Frame → ReferenceLink → LinkedTable → Output → Entry
  collectionSite : Frame → CollectionLink → Site
  collectionEntry : Frame → CollectionLink → LinkedTable → Output → Entry
  /-- What is made of a table from its properties in display order. -/
  finish : TableHead → Frame → List Entry → Output

/-- What was made of a table, with the display orders of its properties. -/
structure Walked (Output : Type) where
  output : Output
  displayOrders : List (Option UInt32)
deriving DecidableEq, Repr

/-- The number of properties. -/
def Walked.propertyCount (walked : Walked Output) : Nat := walked.displayOrders.length

namespace Resolver

variable (r : Resolver) (fold : TableFold Site Frame Entry Output)

mutual

/-- Walk over a table whose relation is known. -/
def walkTable (location : Location) (relation : Relation) (site : Site) :
    TableSpec → Except SpecError (Walked Output)
  | ⟨table, aliasName, fields, parents, children, condition, resultTypeName⟩ => do
    let fields ← r.fieldEntries location table relation fields
    let head : TableHead :=
      ⟨relation.id, relation.keyFields.map (·.name), table, aliasName, condition, resultTypeName,
        fields⟩
    let frame := fold.start head site
    let own := fields.map fun field => (field.displayOrder, fold.fieldEntry frame field)
    let inlined ← walkInlined location relation parents frame
    let references ← walkReferences location relation inlined.1 parents
    let collections ← walkCollections location relation inlined.1 children
    let entries := own ++ inlined.2 ++ references ++ collections
    if entries.isEmpty then .error ⟨location, .emptySelectList⟩
    else
      let ordered := inDisplayOrder Prod.fst entries
      return ⟨fold.finish head inlined.1 (ordered.map Prod.snd), ordered.map Prod.fst⟩
termination_by structural spec => spec

/-- Walk over the inline ones of some parents. -/
def walkInlined (location : Location) (relation : Relation) :
    List ParentTable → Frame → Except SpecError (Frame × List (Option UInt32 × Entry))
  | [], frame => .ok (frame, [])
  | ⟨link, spec⟩ :: parents, frame =>
    match link.referenceName with
    | some _ => walkInlined location relation parents frame
    | none => do
      let here := location.enter (inlineParentPart spec.table)
      let parent ← r.table here spec.table
      let matching ← r.parentMatch here relation parent link spec.condition.isSome
      let link : InlineLink := ⟨matching, link.subqueryAlias⟩
      let table := parent.linked spec.table
      let opened := fold.inlineSite frame link table
      let walked ← walkTable here parent opened.2 spec
      let lifted := fold.inlineEntries opened.1 link table walked.output
      let others ← walkInlined location relation parents lifted.1
      return (others.1, walked.displayOrders.zip lifted.2 ++ others.2)
termination_by structural parents => parents

/-- Walk over the referenced ones of some parents. -/
def walkReferences (location : Location) (relation : Relation) (frame : Frame) :
    List ParentTable → Except SpecError (List (Option UInt32 × Entry))
  | [] => .ok []
  | ⟨link, spec⟩ :: parents =>
    match link.referenceName with
    | none => walkReferences location relation frame parents
    | some name => do
      let here := location.enter (referencePart spec.table name)
      let parent ← r.table here spec.table
      let matching ← r.parentMatch here relation parent link spec.condition.isSome
      let link : ReferenceLink := ⟨name, matching, link.displayOrder⟩
      let walked ← walkTable here parent (fold.referenceSite frame link) spec
      let others ← walkReferences location relation frame parents
      return (link.displayOrder,
        fold.referenceEntry frame link (parent.linked spec.table) walked.output) :: others
termination_by structural parents => parents

/-- Walk over some children. The elements of a collection are bare values only if they have just
one property. -/
def walkCollections (location : Location) (relation : Relation) (frame : Frame) :
    List ChildTable → Except SpecError (List (Option UInt32 × Entry))
  | [] => .ok []
  | ⟨link, spec⟩ :: children => do
    let here := location.enter (collectionPart spec.table link.collectionName)
    let child ← r.table here spec.table
    let pairs ← r.childPairs here child relation link
    let unwraps := link.unwraps
    let link : CollectionLink :=
      ⟨link.collectionName, pairs, link.filter, unwraps, link.orderBy, link.displayOrder⟩
    let walked ← walkTable here child (fold.collectionSite frame link) spec
    if unwraps && walked.propertyCount != 1 then
      .error ⟨here, .invalidUnwrap walked.propertyCount⟩
    else
      let others ← walkCollections location relation frame children
      return (link.displayOrder,
        fold.collectionEntry frame link (child.linked spec.table) walked.output) :: others
termination_by structural children => children

end

/-- Walk over a specification. -/
def walk (location : Location) (site : Site) (spec : TableSpec) :
    Except SpecError (Walked Output) := do
  let relation ← r.table location spec.table
  r.walkTable fold location relation site spec

end Resolver

end NestedQuery
