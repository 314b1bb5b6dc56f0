import NestedQuery.Proofs.PropertyOrigins
import NestedQuery.Proofs.Scoping

/-!
# Plans under another schema

A plan holds what was found for the names of a specification. It stays the same under another
schema, and with the names spelled in another way, if every lookup finds the same: the relation of
each table with its primary key and the fields asked for, and the foreign keys between the tables
that are linked by them. Each kind of step is carried over by itself; then the steps are put
together along the tree.

## Main Definitions

* `Spelling`: other spellings of table names and of the column names of links
* `TableSpec.respell`, `TablePlan.respell`: a specification and its plan with other spellings
* `Resolver.keyLinks`, `Resolver.followedKeys`: the relations that a specification links by foreign
  keys, and the keys that it follows to parents
* `Resolver.Covers`: a relation in which a query finds what it finds in another
* `Resolver.Carries`: lookups that find the same

## Main Results

* `Resolver.Carries.fieldEntry`, `Resolver.Carries.parentMatch`, `Resolver.Carries.childPairs`:
  single steps
* `Resolver.Carries.planTable`, `Resolver.Carries.plan`: whole specifications
-/

namespace NestedQuery

/-! ### Spellings -/

/-- Other spellings of the names that a specification looks up, apart from those in its field
lists. -/
structure Spelling where
  table : String → String
  /-- The names in links: those of foreign key fields and those that a custom match equates. -/
  column : String → String

/-- All names as they are. -/
def Spelling.same : Spelling := ⟨id, id⟩

/-- A custom match with other spellings. -/
def CustomMatch.respell (column : String → String) (custom : CustomMatch) : CustomMatch :=
  { custom with equated := custom.equated.map fun pair => ⟨column pair.child, column pair.parent⟩ }

/-- The link of a parent with other spellings. -/
def ParentLink.respell (column : String → String) (link : ParentLink) : ParentLink :=
  { link with
    foreignKeyFields := link.foreignKeyFields.map (·.map column)
    customMatch := link.customMatch.map (·.respell column) }

/-- The link of a child with other spellings. -/
def ChildLink.respell (column : String → String) (link : ChildLink) : ChildLink :=
  { link with
    foreignKeyFields := link.foreignKeyFields.map (·.map column)
    customMatch := link.customMatch.map (·.respell column) }

mutual

/-- A specification with other spellings. -/
def TableSpec.respell (spelling : Spelling) : TableSpec → TableSpec
  | ⟨table, aliasName, fields, parents, children, condition, resultTypeName⟩ =>
    ⟨spelling.table table, aliasName, fields, ParentTable.respellAll spelling parents,
      ChildTable.respellAll spelling children, condition, resultTypeName⟩
termination_by structural spec => spec

/-- Parents with other spellings. -/
def ParentTable.respellAll (spelling : Spelling) : List ParentTable → List ParentTable
  | [] => []
  | ⟨link, spec⟩ :: parents =>
    ⟨link.respell spelling.column, spec.respell spelling⟩ ::
      ParentTable.respellAll spelling parents
termination_by structural parents => parents

/-- Children with other spellings. -/
def ChildTable.respellAll (spelling : Spelling) : List ChildTable → List ChildTable
  | [] => []
  | ⟨link, spec⟩ :: children =>
    ⟨link.respell spelling.column, spec.respell spelling⟩ ::
      ChildTable.respellAll spelling children
termination_by structural children => children

end

/-- A parent with other spellings. -/
def ParentTable.respell (spelling : Spelling) (parent : ParentTable) : ParentTable :=
  ⟨parent.link.respell spelling.column, parent.spec.respell spelling⟩

/-- A child with other spellings. -/
def ChildTable.respell (spelling : Spelling) (child : ChildTable) : ChildTable :=
  ⟨child.link.respell spelling.column, child.spec.respell spelling⟩

theorem ParentTable.respellAll_eq_map (spelling : Spelling) (parents : List ParentTable) :
    ParentTable.respellAll spelling parents = parents.map (·.respell spelling) := by
  induction parents with
  | nil => rfl
  | cons parent parents ih =>
      obtain ⟨link, spec⟩ := parent
      rw [ParentTable.respellAll, ih]
      rfl

theorem ChildTable.respellAll_eq_map (spelling : Spelling) (children : List ChildTable) :
    ChildTable.respellAll spelling children = children.map (·.respell spelling) := by
  induction children with
  | nil => rfl
  | cons child children ih =>
      obtain ⟨link, spec⟩ := child
      rw [ChildTable.respellAll, ih]
      rfl

/-- A specification with other spellings, part by part. -/
theorem TableSpec.respell_eq (spelling : Spelling) (spec : TableSpec) :
    spec.respell spelling = ⟨spelling.table spec.table, spec.aliasName, spec.fields,
      spec.parents.map (·.respell spelling), spec.children.map (·.respell spelling),
      spec.condition, spec.resultTypeName⟩ := by
  obtain ⟨table, aliasName, fields, parents, children, condition, resultTypeName⟩ := spec
  rw [TableSpec.respell, ParentTable.respellAll_eq_map, ChildTable.respellAll_eq_map]

@[simp]
theorem TableSpec.table_respell (spelling : Spelling) (spec : TableSpec) :
    (spec.respell spelling).table = spelling.table spec.table := by
  rw [respell_eq]

@[simp]
theorem TableSpec.condition_respell (spelling : Spelling) (spec : TableSpec) :
    (spec.respell spelling).condition = spec.condition := by
  rw [respell_eq]

theorem CustomMatch.respell_id (custom : CustomMatch) : custom.respell id = custom := by
  obtain ⟨equated, alwaysExists⟩ := custom
  simp [CustomMatch.respell]

/-- Nothing changes if all names stay as they are. -/
theorem TableSpec.respell_same (spec : TableSpec) : spec.respell .same = spec := by
  have custom : (CustomMatch.respell id) = id := funext CustomMatch.respell_id
  induction spec using TableSpec.tree_induction with
  | step spec ofParent ofChild =>
      have parents : spec.parents.map (·.respell .same) = spec.parents := by
        refine (List.map_congr_left fun parent member => ?_).trans (List.map_id _)
        have inner := ofParent parent member
        obtain ⟨link, parentSpec⟩ := parent
        simpa [ParentTable.respell, ParentLink.respell, Spelling.same, custom] using inner
      have children : spec.children.map (·.respell .same) = spec.children := by
        refine (List.map_congr_left fun child member => ?_).trans (List.map_id _)
        have inner := ofChild child member
        obtain ⟨link, childSpec⟩ := child
        simpa [ChildTable.respell, ChildLink.respell, Spelling.same, custom] using inner
      rw [TableSpec.respell_eq, parents, children]
      obtain ⟨table, aliasName, fields, parents, children, condition, resultTypeName⟩ := spec
      rfl

/-! ### Plans with other spellings -/

mutual

/-- The plan of a specification whose table names are spelled in another way: it only keeps them
for comments. -/
def TablePlan.respell (table : String → String) : TablePlan → TablePlan
  | ⟨head, inlined, references, collections⟩ =>
    ⟨{ head with written := table head.written }, InlinedParent.respellAll table inlined,
      Reference.respellAll table references, Collection.respellAll table collections⟩
termination_by structural plan => plan

/-- Inline parents with other spellings. -/
def InlinedParent.respellAll (table : String → String) : List InlinedParent → List InlinedParent
  | [] => []
  | ⟨link, plan⟩ :: parents => ⟨link, plan.respell table⟩ :: InlinedParent.respellAll table parents
termination_by structural parents => parents

/-- Referenced parents with other spellings. -/
def Reference.respellAll (table : String → String) : List Reference → List Reference
  | [] => []
  | ⟨link, plan⟩ :: references =>
    ⟨link, plan.respell table⟩ :: Reference.respellAll table references
termination_by structural references => references

/-- Children with other spellings. -/
def Collection.respellAll (table : String → String) : List Collection → List Collection
  | [] => []
  | ⟨link, plan⟩ :: collections =>
    ⟨link, plan.respell table⟩ :: Collection.respellAll table collections
termination_by structural collections => collections

end

/-- An inline parent with other spellings. -/
def InlinedParent.respell (table : String → String) (parent : InlinedParent) : InlinedParent :=
  ⟨parent.link, parent.plan.respell table⟩

/-- A referenced parent with other spellings. -/
def Reference.respell (table : String → String) (reference : Reference) : Reference :=
  ⟨reference.link, reference.plan.respell table⟩

/-- A child with other spellings. -/
def Collection.respell (table : String → String) (collection : Collection) : Collection :=
  ⟨collection.link, collection.plan.respell table⟩

theorem InlinedParent.respellAll_eq_map (table : String → String) (parents : List InlinedParent) :
    InlinedParent.respellAll table parents = parents.map (·.respell table) := by
  induction parents with
  | nil => rfl
  | cons parent parents ih =>
      obtain ⟨link, plan⟩ := parent
      rw [InlinedParent.respellAll, ih]
      rfl

theorem Reference.respellAll_eq_map (table : String → String) (references : List Reference) :
    Reference.respellAll table references = references.map (·.respell table) := by
  induction references with
  | nil => rfl
  | cons reference references ih =>
      obtain ⟨link, plan⟩ := reference
      rw [Reference.respellAll, ih]
      rfl

theorem Collection.respellAll_eq_map (table : String → String) (collections : List Collection) :
    Collection.respellAll table collections = collections.map (·.respell table) := by
  induction collections with
  | nil => rfl
  | cons collection collections ih =>
      obtain ⟨link, plan⟩ := collection
      rw [Collection.respellAll, ih]
      rfl

/-- A plan with other spellings, part by part. -/
theorem TablePlan.respell_eq (table : String → String) (plan : TablePlan) :
    plan.respell table = ⟨{ plan.head with written := table plan.head.written },
      plan.inlined.map (·.respell table), plan.references.map (·.respell table),
      plan.collections.map (·.respell table)⟩ := by
  obtain ⟨head, inlined, references, collections⟩ := plan
  rw [TablePlan.respell, InlinedParent.respellAll_eq_map, Reference.respellAll_eq_map,
    Collection.respellAll_eq_map]

theorem TablePlan.respell_id (plan : TablePlan) : plan.respell id = plan := by
  induction plan using TablePlan.tree_induction with
  | step plan ofInlined ofReference ofCollection =>
      have inlined : plan.inlined.map (·.respell id) = plan.inlined := by
        refine (List.map_congr_left fun parent member => ?_).trans (List.map_id _)
        rw [InlinedParent.respell, ofInlined parent member]
        cases parent
        rfl
      have references : plan.references.map (·.respell id) = plan.references := by
        refine (List.map_congr_left fun parent member => ?_).trans (List.map_id _)
        rw [Reference.respell, ofReference parent member]
        cases parent
        rfl
      have collections : plan.collections.map (·.respell id) = plan.collections := by
        refine (List.map_congr_left fun child member => ?_).trans (List.map_id _)
        rw [Collection.respell, ofCollection child member]
        cases child
        rfl
      rw [TablePlan.respell_eq, inlined, references, collections]
      obtain ⟨head, inlined, references, collections⟩ := plan
      rfl

/-! ### Linked relations -/

namespace Resolver

section Links

variable (r : Resolver) (spec : TableSpec)

/-- The parents in a specification, each between the relation of its table and its own. -/
def parentLinks : List (Relation × ParentTable × Relation) :=
  spec.tables.flatMap fun table =>
    (r.relation? table.table).toList.flatMap fun relation =>
      table.parents.filterMap fun parent =>
        (r.relation? parent.spec.table).map fun target => (relation, parent, target)

/-- The children in a specification, each between the relation of its table and its own. -/
def childLinks : List (Relation × ChildTable × Relation) :=
  spec.tables.flatMap fun table =>
    (r.relation? table.table).toList.flatMap fun relation =>
      table.children.filterMap fun child =>
        (r.relation? child.spec.table).map fun target => (relation, child, target)

/-- The child and parent relations that a specification links by foreign keys. -/
def keyLinks : List (RelationId × RelationId) :=
  ((r.parentLinks spec).filter (·.2.1.link.customMatch.isNone)).map
      (fun (relation, _, target) => (relation.id, target.id)) ++
    ((r.childLinks spec).filter (·.2.1.link.customMatch.isNone)).map
      (fun (relation, _, target) => (target.id, relation.id))

/-- The foreign keys that a specification follows to parents without a condition on their
records. -/
def followedKeys : List ForeignKey :=
  (r.parentLinks spec).filterMap fun (relation, parent, target) =>
    if parent.link.customMatch.isNone && parent.spec.condition.isNone then
      (r.database.foreignKey? relation.id target.id parent.link.foreignKeyFields).toOption.join
    else none

end Links

variable {r : Resolver} {root table : TableSpec} {relation target : Relation}

theorem mem_parentLinks (node : root.Node table) (found : r.relation? table.table = some relation)
    {parent : ParentTable} (member : parent ∈ table.parents)
    (parentFound : r.relation? parent.spec.table = some target) :
    (relation, parent, target) ∈ r.parentLinks root := by
  refine List.mem_flatMap.mpr ⟨table, TableSpec.mem_tables.mpr node, ?_⟩
  refine List.mem_flatMap.mpr ⟨relation, by simp [found], ?_⟩
  exact List.mem_filterMap.mpr ⟨parent, member, by simp [parentFound]⟩

theorem mem_childLinks (node : root.Node table) (found : r.relation? table.table = some relation)
    {child : ChildTable} (member : child ∈ table.children)
    (childFound : r.relation? child.spec.table = some target) :
    (relation, child, target) ∈ r.childLinks root := by
  refine List.mem_flatMap.mpr ⟨table, TableSpec.mem_tables.mpr node, ?_⟩
  refine List.mem_flatMap.mpr ⟨relation, by simp [found], ?_⟩
  exact List.mem_filterMap.mpr ⟨child, member, by simp [childFound]⟩

theorem keyLink_of_parentLink {parent : ParentTable}
    (linked : (relation, parent, target) ∈ r.parentLinks root)
    (byKey : parent.link.customMatch = none) : (relation.id, target.id) ∈ r.keyLinks root := by
  refine List.mem_append_left _ (List.mem_map.mpr ⟨_, List.mem_filter.mpr ⟨linked, ?_⟩, rfl⟩)
  simp [byKey]

theorem keyLink_of_childLink {child : ChildTable}
    (linked : (relation, child, target) ∈ r.childLinks root)
    (byKey : child.link.customMatch = none) : (target.id, relation.id) ∈ r.keyLinks root := by
  refine List.mem_append_right _ (List.mem_map.mpr ⟨_, List.mem_filter.mpr ⟨linked, ?_⟩, rfl⟩)
  simp [byKey]

theorem mem_followedKeys {parent : ParentTable}
    (linked : (relation, parent, target) ∈ r.parentLinks root)
    (byKey : parent.link.customMatch = none) (free : parent.spec.condition = none)
    {key : ForeignKey}
    (chosen : r.database.foreignKey? relation.id target.id parent.link.foreignKeyFields =
      .ok (some key)) : key ∈ r.followedKeys root := by
  refine List.mem_filterMap.mpr ⟨_, linked, ?_⟩
  simp [byKey, free, chosen, Except.toOption]

end Resolver

/-! ### Lookups that find the same -/

theorem Database.id_of_relation? {db : Database} {id : RelationId} {relation : Relation}
    (found : db.relation? id = some relation) : relation.id = id := by
  simpa using List.find?_some found

namespace Resolver

/-- A relation in which a query finds what it finds in another one: the name, the primary key and
the fields. A foreign key that is followed to a parent is certain to find a row only if it is so for
the other relation. -/
structure Covers (r : Resolver) (root : TableSpec) (relation larger : Relation) : Prop where
  id : larger.id = relation.id
  key : larger.keyFields.map (·.name) = relation.keyFields.map (·.name)
  field : ∀ name field, relation.field? name = some field → larger.field? name = some field
  certain : ∀ key ∈ r.followedKeys root, key.child = relation.id →
    (∃ column ∈ key.columns, larger.Requires column.child) →
    ∃ column ∈ key.columns, relation.Requires column.child

theorem Covers.refl (r : Resolver) (root : TableSpec) (relation : Relation) :
    r.Covers root relation relation :=
  ⟨rfl, rfl, fun _ _ found => found, fun _ _ _ certain => certain⟩

/-- A covering relation makes the same foreign keys certain. -/
theorem Covers.guaranteed_eq {r : Resolver} {root : TableSpec} {relation larger : Relation}
    (covers : r.Covers root relation larger) {key : ForeignKey}
    (followed : key ∈ r.followedKeys root) (child : key.child = relation.id) :
    guaranteed larger key.columns none false = guaranteed relation key.columns none false := by
  rw [Bool.eq_iff_iff, guaranteed_foreignKey_iff, guaranteed_foreignKey_iff]
  refine ⟨covers.certain key followed child, ?_⟩
  rintro ⟨column, inKey, field, found, required⟩
  exact ⟨column, inKey, field, covers.field _ _ found, required⟩

/-- Under another resolver, the names of a specification find what they find under the first one,
if they are spelled in another way. -/
structure Carries (r other : Resolver) (spelling : Spelling) (root : TableSpec) : Prop where
  naming : other.naming = r.naming
  casePolicy : other.database.casePolicy = r.database.casePolicy
  columns : ∀ name, r.database.exact (spelling.column name) = r.database.exact name
  tables : ∀ table, root.Node table → ∀ relation, r.relation? table.table = some relation →
    ∃ larger, other.relation? (spelling.table table.table) = some larger ∧
      r.Covers root relation larger
  keys : ∀ child parent, (child, parent) ∈ r.keyLinks root →
    other.database.foreignKeysBetween child parent = r.database.foreignKeysBetween child parent

namespace Carries

variable {r other : Resolver} {spelling : Spelling} {root : TableSpec} {here there : Location}
  {relation larger target largerTarget : Relation}

theorem exact_eq (carries : r.Carries other spelling root) (name : String) :
    other.database.exact name = r.database.exact name :=
  congrArg (CasePolicy.exact · name) carries.casePolicy

theorem exact_column (carries : r.Carries other spelling root) (name : String) :
    other.database.exact (spelling.column name) = r.database.exact name :=
  (carries.exact_eq _).trans (carries.columns name)

/-! ### Fields -/

theorem field? (carries : r.Carries other spelling root) (covers : r.Covers root relation larger)
    {name : String} {field : Field} (found : r.database.field? relation name = some field) :
    other.database.field? larger name = some field := by
  rw [Database.field?, carries.exact_eq]
  exact covers.field _ _ found

theorem field?_column (carries : r.Carries other spelling root)
    (covers : r.Covers root relation larger) {name : String} {field : Field}
    (found : r.database.field? relation name = some field) :
    other.database.field? larger (spelling.column name) = some field := by
  rw [Database.field?, carries.exact_column]
  exact covers.field _ _ found

theorem fieldProperty (carries : r.Carries other spelling root)
    (covers : r.Covers root relation larger) {name : String} {property : Option String}
    {sourceType : Option SourceType} {displayOrder : Option UInt32} {planned : PlannedField}
    (resolved : r.fieldProperty here relation name property sourceType displayOrder =
      .ok planned) :
    other.fieldProperty there larger name property sourceType displayOrder = .ok planned := by
  obtain ⟨stored, found, rfl⟩ := fieldProperty_eq_ok resolved
  have propertyName : other.propertyName name = r.propertyName name := by
    rw [Resolver.propertyName, carries.naming, carries.casePolicy]
    rfl
  rw [Resolver.fieldProperty, Resolver.field, carries.field? covers found, propertyName]
  rfl

/-- Where an expression is met matters only if there is a fault in it. -/
theorem expressionProperty_elsewhere {sql : String} {detail : FieldDetail}
    {planned : PlannedField} (resolved : expressionProperty here sql detail = .ok planned) :
    expressionProperty there sql detail = .ok planned := by
  unfold expressionProperty at resolved ⊢
  cases name : detail.jsonProperty with
  | none =>
      simp only [name] at resolved
      cases resolved
  | some property =>
      cases type : detail.sourceType with
      | none =>
          simp only [name, type] at resolved
          cases resolved
      | some sourceType =>
          simp only [name, type] at resolved ⊢
          exact resolved

theorem fieldEntry (carries : r.Carries other spelling root)
    (covers : r.Covers root relation larger) {entry : FieldEntry} {planned : PlannedField}
    (resolved : r.fieldEntry here relation entry = .ok planned) :
    other.fieldEntry there larger entry = .ok planned := by
  cases entry with
  | named name => exact carries.fieldProperty covers resolved
  | detailed detail =>
      unfold Resolver.fieldEntry at resolved ⊢
      cases named : detail.field with
      | some name =>
          cases given : detail.expression with
          | some sql =>
              simp only [named, given] at resolved
              cases resolved
          | none =>
              simp only [named, given] at resolved ⊢
              exact carries.fieldProperty covers resolved
      | none =>
          cases given : detail.expression with
          | some sql =>
              simp only [named, given] at resolved ⊢
              exact expressionProperty_elsewhere resolved
          | none =>
              simp only [named, given] at resolved
              cases resolved

theorem fieldEntries (carries : r.Carries other spelling root)
    (covers : r.Covers root relation larger) {table : String} {entries : List FieldEntry}
    {fields : List PlannedField}
    (resolved : r.fieldEntries here table relation entries = .ok fields) (written : String) :
    other.fieldEntries there written larger entries = .ok fields := by
  refine fieldEntries_of_forall₂ ((fieldEntries_forall₂ resolved).imp ?_) written
  rintro entry field ⟨_, found⟩ _
  exact carries.fieldEntry covers found

/-! ### Links -/

theorem equatedPair (carries : r.Carries other spelling root)
    (covers : r.Covers root relation larger) (coversTarget : r.Covers root target largerTarget)
    {pair matched : FieldPair}
    (resolved : r.equatedPair here relation target pair = .ok matched) :
    other.equatedPair there larger largerTarget
      ⟨spelling.column pair.child, spelling.column pair.parent⟩ = .ok matched := by
  unfold Resolver.equatedPair at resolved ⊢
  split at resolved
  · cases resolved
  · rename_i childField childFound
    split at resolved
    · cases resolved
    · rename_i parentField parentFound
      rw [carries.field?_column covers childFound, carries.field?_column coversTarget parentFound]
      exact resolved

theorem customPairs (carries : r.Carries other spelling root)
    (covers : r.Covers root relation larger) (coversTarget : r.Covers root target largerTarget)
    {custom : CustomMatch} {pairs : List FieldPair}
    (resolved : r.customPairs here relation target custom = .ok pairs) :
    other.customPairs there larger largerTarget (custom.respell spelling.column) = .ok pairs := by
  unfold Resolver.customPairs at resolved ⊢
  split at resolved
  · cases resolved
  · rename_i nonempty
    have respelled : ¬ (custom.respell spelling.column).equated.isEmpty = true := by
      simpa [CustomMatch.respell] using nonempty
    rw [if_neg respelled]
    refine mapM_eq_ok.mpr ?_
    rw [CustomMatch.respell, List.forall₂_map_left_iff]
    exact (mapM_eq_ok.mp resolved).imp fun _ _ found =>
      carries.equatedPair covers coversTarget found

/-- The foreign keys are chosen by stored names. -/
theorem foreignKey? (carries : r.Carries other spelling root) {child parent : RelationId}
    (same : other.database.foreignKeysBetween child parent =
      r.database.foreignKeysBetween child parent) (fields : Option (List String)) :
    other.database.foreignKey? child parent (fields.map (·.map spelling.column)) =
      r.database.foreignKey? child parent fields := by
  have keys : other.database.qualifyingKeys child parent (fields.map (·.map spelling.column)) =
      r.database.qualifyingKeys child parent fields := by
    unfold Database.qualifyingKeys
    rw [same]
    cases fields with
    | none => rfl
    | some names =>
        have stored : (names.map spelling.column).map other.database.exact =
            names.map r.database.exact := by
          rw [List.map_map]
          exact List.map_congr_left fun name _ => carries.exact_column name
        simp only [Option.map_some, stored]
  unfold Database.foreignKey?
  rw [keys, Option.isSome_map]

theorem linkPairs (carries : r.Carries other spelling root)
    (covers : r.Covers root relation larger) (coversTarget : r.Covers root target largerTarget)
    {custom : Option CustomMatch} {fields : Option (List String)} {pairs : List FieldPair}
    (linked : custom = none → (relation.id, target.id) ∈ r.keyLinks root)
    (resolved : r.linkPairs here relation target custom fields = .ok pairs) :
    other.linkPairs there larger largerTarget (custom.map (·.respell spelling.column))
      (fields.map (·.map spelling.column)) = .ok pairs := by
  cases custom with
  | none =>
      obtain ⟨key, found, columns⟩ := foreignKeyPairs_eq_ok.mp resolved
      refine foreignKeyPairs_eq_ok.mpr ⟨key, ?_, columns⟩
      rw [covers.id, coversTarget.id, carries.foreignKey? (carries.keys _ _ (linked rfl))]
      exact found
  | some given =>
      unfold Resolver.linkPairs at resolved ⊢
      dsimp only [Option.map_some] at resolved ⊢
      rw [Option.isSome_map]
      split at resolved
      · cases resolved
      · rename_i alone
        rw [if_neg alone]
        exact carries.customPairs covers coversTarget resolved

theorem guaranteed_eq (covers : r.Covers root relation larger) {parent : ParentTable}
    (linked : (relation, parent, target) ∈ r.parentLinks root) {pairs : List FieldPair}
    (paired : r.linkPairs here relation target parent.link.customMatch
      parent.link.foreignKeyFields = .ok pairs) (column : String → String) :
    guaranteed larger pairs (parent.link.respell column).customMatch
        parent.spec.condition.isSome =
      guaranteed relation pairs parent.link.customMatch parent.spec.condition.isSome := by
  cases condition : parent.spec.condition with
  | some _ => rfl
  | none =>
      cases byKey : parent.link.customMatch with
      | some custom =>
          simp only [ParentLink.respell, byKey]
          rfl
      | none =>
          rw [byKey] at paired
          obtain ⟨key, chosen, rfl⟩ := foreignKeyPairs_eq_ok.mp paired
          obtain ⟨-, ofChild, -⟩ := Database.mem_of_foreignKey? chosen
          have followed := mem_followedKeys linked byKey condition chosen
          simp only [ParentLink.respell, byKey, Option.map_none, Option.isSome_none]
          exact covers.guaranteed_eq followed ofChild

/-- How the rows of a table are matched with those of a parent. -/
theorem parentMatch (carries : r.Carries other spelling root)
    (covers : r.Covers root relation larger) (coversTarget : r.Covers root target largerTarget)
    {parent : ParentTable} (linked : (relation, parent, target) ∈ r.parentLinks root)
    {matching : RowMatch}
    (resolved : r.parentMatch here relation target parent.link parent.spec.condition.isSome =
      .ok matching) :
    other.parentMatch there larger largerTarget (parent.link.respell spelling.column)
      parent.spec.condition.isSome = .ok matching := by
  obtain ⟨pairs, paired, equal⟩ := bind_eq_ok.mp resolved
  refine bind_eq_ok.mpr ⟨pairs, ?_, ?_⟩
  · exact carries.linkPairs covers coversTarget (keyLink_of_parentLink linked) paired
  · rw [guaranteed_eq covers linked paired]
    exact equal

theorem childPairs (carries : r.Carries other spelling root)
    (covers : r.Covers root relation larger) (coversTarget : r.Covers root target largerTarget)
    {child : ChildTable} (linked : (relation, child, target) ∈ r.childLinks root)
    {pairs : List FieldPair}
    (resolved : r.childPairs here target relation child.link = .ok pairs) :
    other.childPairs there largerTarget larger (child.link.respell spelling.column) =
      .ok pairs :=
  carries.linkPairs coversTarget covers (keyLink_of_childLink linked) resolved

end Carries

end Resolver

/-! ### Trees -/

theorem InlinedParent.propertyCountAll_respell {table : String → String}
    {parents : List InlinedParent} (counts : ∀ parent ∈ parents,
      (parent.plan.respell table).propertyCount = parent.plan.propertyCount) :
    InlinedParent.propertyCountAll (parents.map (·.respell table)) =
      InlinedParent.propertyCountAll parents := by
  induction parents with
  | nil => rfl
  | cons parent parents ih =>
      have own := counts parent List.mem_cons_self
      have rest := ih fun other member => counts other (List.mem_cons_of_mem _ member)
      obtain ⟨link, plan⟩ := parent
      rw [List.map_cons, InlinedParent.respell, InlinedParent.propertyCountAll,
        InlinedParent.propertyCountAll, rest]
      exact congrArg (· + _) own

/-- The number of properties does not depend on spellings. -/
theorem TablePlan.propertyCount_respell (table : String → String) (plan : TablePlan) :
    (plan.respell table).propertyCount = plan.propertyCount := by
  induction plan using TablePlan.tree_induction with
  | step plan ofInlined _ _ =>
      have lifted := InlinedParent.propertyCountAll_respell ofInlined
      obtain ⟨head, inlined, references, collections⟩ := plan
      dsimp only at lifted
      rw [TablePlan.respell_eq, TablePlan.propertyCount, TablePlan.propertyCount]
      simp only [lifted, List.length_map]

namespace Resolver.Carries

variable {r other : Resolver} {spelling : Spelling} {root : TableSpec} {here there : Location}
  {relation larger target : Relation}

/-- The plan of a table is carried over, wherever it is met. -/
def CarriesPlan (r other : Resolver) (spelling : Spelling) (root spec : TableSpec) : Prop :=
  ∀ here there relation larger plan, r.relation? spec.table = some relation →
    r.Covers root relation larger → r.planTable here relation spec = .ok plan →
    other.planTable there larger (spec.respell spelling) = .ok (plan.respell spelling.table)

theorem plansInline (carries : r.Carries other spelling root)
    (covers : r.Covers root relation larger) {parent : ParentTable} {inlined : InlinedParent}
    (node : root.Node parent.spec)
    (linked : (relation, parent, target) ∈ r.parentLinks root)
    (inner : CarriesPlan r other spelling root parent.spec)
    (planned : PlansInline r here relation parent inlined target) :
    ∃ largerTarget, PlansInline other there larger (parent.respell spelling)
      (inlined.respell spelling.table) largerTarget := by
  obtain ⟨largerTarget, found, coversTarget⟩ := carries.tables _ node target planned.found
  refine ⟨largerTarget, ?_, ?_, planned.subqueryAlias, ?_⟩
  · rw [ParentTable.respell, TableSpec.table_respell]
    exact found
  · rw [ParentTable.respell, TableSpec.condition_respell]
    exact carries.parentMatch covers coversTarget linked planned.matching
  · exact inner _ _ _ _ _ planned.found coversTarget planned.plan

theorem plansReference (carries : r.Carries other spelling root)
    (covers : r.Covers root relation larger) {parent : ParentTable} {reference : Reference}
    (node : root.Node parent.spec)
    (linked : (relation, parent, target) ∈ r.parentLinks root)
    (inner : CarriesPlan r other spelling root parent.spec)
    (planned : PlansReference r here relation parent reference target) :
    ∃ largerTarget, PlansReference other there larger (parent.respell spelling)
      (reference.respell spelling.table) largerTarget := by
  obtain ⟨largerTarget, found, coversTarget⟩ := carries.tables _ node target planned.found
  refine ⟨largerTarget, planned.name, planned.displayOrder, ?_, ?_, ?_⟩
  · rw [ParentTable.respell, TableSpec.table_respell]
    exact found
  · rw [ParentTable.respell, TableSpec.condition_respell]
    exact carries.parentMatch covers coversTarget linked planned.matching
  · exact inner _ _ _ _ _ planned.found coversTarget planned.plan

theorem plansCollection (carries : r.Carries other spelling root)
    (covers : r.Covers root relation larger) {child : ChildTable} {collection : Collection}
    (node : root.Node child.spec)
    (linked : (relation, child, target) ∈ r.childLinks root)
    (inner : CarriesPlan r other spelling root child.spec)
    (planned : PlansCollection r here relation child collection target) :
    ∃ largerTarget, PlansCollection other there larger (child.respell spelling)
      (collection.respell spelling.table) largerTarget := by
  obtain ⟨largerTarget, found, coversTarget⟩ := carries.tables _ node target planned.found
  refine ⟨largerTarget, planned.link, ?_, ?_, ?_, ?_⟩
  · rw [ChildTable.respell, TableSpec.table_respell]
    exact found
  · exact carries.childPairs covers coversTarget linked planned.pairs
  · exact inner _ _ _ _ _ planned.found coversTarget planned.plan
  · intro unwraps
    rw [Collection.respell, TablePlan.propertyCount_respell]
    exact planned.unwrapped unwraps

/-- **The plan of a table is carried over** if the lookups for it and for the tables around it
are. -/
theorem planTable (carries : r.Carries other spelling root) (spec : TableSpec)
    (node : root.Node spec) : CarriesPlan r other spelling root spec := by
  induction spec using TableSpec.tree_induction with
  | step spec ofParent ofChild =>
      -- The relation of the table is needed for its own lookups and for the links to the tables
      -- around it, so it goes through the induction together with what covers it.
      intro here there relation larger plan found covers planned
      have parts := planTable_parts planned
      have parentInner : ∀ parent ∈ spec.parents, CarriesPlan r other spelling root parent.spec :=
        fun parent member => ofParent parent member (node.parent member)
      refine planTable_of_parts ⟨?_, ?_, ?_, ?_, ?_, ?_⟩
      · rw [TablePlan.respell_eq, TableSpec.respell_eq, covers.id, covers.key]
        have head := parts.head
        rw [head]
      · rw [TablePlan.respell_eq, TableSpec.respell_eq]
        exact carries.fieldEntries covers parts.fields _
      · rw [TablePlan.respell_eq, TableSpec.respell_eq]
        refine planInlined_of_forall₂ ?_
        rw [List.filter_map, List.forall₂_map_left_iff, List.forall₂_map_right_iff]
        refine (forall₂_with_mem (planInlined_forall₂ parts.inlined)).imp ?_
        rintro parent inlined ⟨inFilter, -, target, resolved⟩
        have member := (List.mem_filter.mp inFilter).1
        exact carries.plansInline covers (node.parent member)
          (mem_parentLinks node found member resolved.found) (parentInner parent member) resolved
      · rw [TablePlan.respell_eq, TableSpec.respell_eq]
        refine planReferences_of_forall₂ ?_
        rw [List.filter_map, List.forall₂_map_left_iff, List.forall₂_map_right_iff]
        refine (forall₂_with_mem (planReferences_forall₂ parts.references)).imp ?_
        rintro parent reference ⟨inFilter, -, target, resolved⟩
        have member := (List.mem_filter.mp inFilter).1
        exact carries.plansReference covers (node.parent member)
          (mem_parentLinks node found member resolved.found) (parentInner parent member) resolved
      · rw [TablePlan.respell_eq, TableSpec.respell_eq]
        refine planCollections_of_forall₂ ?_
        rw [List.forall₂_map_left_iff, List.forall₂_map_right_iff]
        refine (forall₂_with_mem (planCollections_forall₂ parts.collections)).imp ?_
        rintro child collection ⟨member, -, target, resolved⟩
        exact carries.plansCollection covers (node.child member)
          (mem_childLinks node found member resolved.found)
          (ofChild child member (node.child member)) resolved
      · rw [TablePlan.propertyCount_respell]
        exact parts.count

/-- **The plan of a specification is carried over.** -/
theorem plan (carries : r.Carries other spelling root) {plan : TablePlan}
    (planned : r.plan here root = .ok plan) :
    other.plan there (root.respell spelling) = .ok (plan.respell spelling.table) := by
  obtain ⟨relation, tableFound, tablePlanned⟩ := bind_eq_ok.mp planned
  have found := table_eq_ok.mp tableFound
  obtain ⟨larger, otherFound, covers⟩ := carries.tables root .root relation found
  refine bind_eq_ok.mpr ⟨larger, ?_, ?_⟩
  · rw [TableSpec.table_respell]
    exact table_eq_ok.mpr otherFound
  · exact carries.planTable root .root _ _ _ _ _ found covers tablePlanned

end Resolver.Carries

/-- Rows that cannot be locked are refused before anything is looked up. -/
theorem Query.statement_of_locked (r : Resolver) (query : Query) {representation : Representation}
    (locked : (query.locksRows && representation != .multiColumnRows) = true) :
    query.statement r representation =
      .error ⟨(Location.root query.name).enter "for update clause",
        .forUpdateRequiresMultiColumnRows⟩ := by
  rw [Query.statement, if_pos locked]

end NestedQuery
