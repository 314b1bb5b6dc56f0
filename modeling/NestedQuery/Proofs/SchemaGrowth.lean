import NestedQuery.Compile.Group
import NestedQuery.Proofs.Agreement
import NestedQuery.Proofs.RowExistence
import NestedQuery.Proofs.Transfer
import NestedQuery.Spec.Pharmacy

/-!
# Unrelated growth of a schema

A schema grows while the queries on it stay. New relations, new fields and new foreign keys
elsewhere should not change what an accepted query is compiled to: not its statements, its result
types and their names, nor the SQL. Each lookup has to be insensitive to the additions, and almost
all are. The exception is a foreign key that names a field its relation does not have. As nothing is
known of the field, the key promises no parent row; if the field is added and may not be null, the
key does. So the additions must not fill such gaps.

## Main Definitions

* `Extends`: a list with additions at any places
* `Relation.Grows`, `Resolver.GrowsBeside`: what may be added to a relation, and to a schema beside
  a specification
* `Resolver.KeepsGaps`: fields that foreign keys wait for are not added

## Main Results

* `Database.relation?_of_grown`: relations are found as before, with more fields
* `Resolver.GrowsBeside.foreignKeysBetween`: so are the foreign keys of linked relations
* `Resolver.GrowsBeside.plan`: the plan of a query
* `unrelated_growth_changes_nothing`: all that a query is compiled to
-/

namespace NestedQuery

/-! ### Lists with additions -/

/-- A list whose elements go to those of another list, in their order, with additions between
them. -/
inductive Extends (R : α → β → Prop) (New : β → Prop) : List α → List β → Prop
  | nil : Extends R New [] []
  | keep {x : α} {y : β} {xs : List α} {ys : List β} (related : R x y)
      (rest : Extends R New xs ys) : Extends R New (x :: xs) (y :: ys)
  | add {y : β} {xs : List α} {ys : List β} (new : New y) (rest : Extends R New xs ys) :
      Extends R New xs (y :: ys)

/-- If the additions are left out, the lists correspond one to one. -/
theorem Extends.filter_forall₂ {R : α → β → Prop} {New : β → Prop} {xs : List α} {ys : List β}
    (grown : Extends R New xs ys) {p : α → Bool} {q : β → Bool}
    (same : ∀ x y, R x y → p x = q y) (left : ∀ y, New y → q y = false) :
    List.Forall₂ R (xs.filter p) (ys.filter q) := by
  induction grown with
  | nil => exact .nil
  | @keep x y xs ys related _ ih =>
      have alike := same x y related
      by_cases chosen : q y = true
      · rw [List.filter_cons_of_pos chosen, List.filter_cons_of_pos (alike.trans chosen)]
        exact .cons related ih
      · rw [List.filter_cons_of_neg chosen, List.filter_cons_of_neg (by rwa [alike])]
        exact ih
  | @add y xs ys new _ ih =>
      rw [List.filter_cons_of_neg (by simp [left y new])]
      exact ih

/-- Elements may be changed where they are and added behind. -/
theorem Extends.map_append {R : α → β → Prop} {New : β → Prop} {f : α → β} {xs : List α}
    {added : List β} (related : ∀ x ∈ xs, R x (f x)) (new : ∀ y ∈ added, New y) :
    Extends R New xs (xs.map f ++ added) := by
  induction xs with
  | nil =>
      induction added with
      | nil => exact .nil
      | cons y ys ih =>
          exact .add (new y List.mem_cons_self)
            (ih fun other member => new other (List.mem_cons_of_mem _ member))
  | cons x xs ih =>
      exact .keep (related x List.mem_cons_self)
        (ih fun other member => related other (List.mem_cons_of_mem _ member))

theorem forall₂_getLast? {R : α → β → Prop} {xs : List α} {ys : List β}
    (lists : List.Forall₂ R xs ys) {x : α} (last : xs.getLast? = some x) :
    ∃ y, ys.getLast? = some y ∧ R x y := by
  have reversed := List.forall₂_reverse_iff.mpr lists
  rw [← List.head?_reverse] at last ⊢
  cases first : xs.reverse with
  | nil =>
      rw [first] at last
      cases last
  | cons z zs =>
      rw [first] at last reversed
      cases last
      obtain ⟨y, others, related, -, equal⟩ := List.forall₂_cons_left_iff.mp reversed
      rw [equal]
      exact ⟨y, rfl, related⟩

/-! ### Growth -/

/-- A relation with more fields behind its own. The new fields are not part of the primary key, and
their names are new to the relation. -/
def Relation.Grows (relation grown : Relation) : Prop :=
  ∃ added : List Field, grown = { relation with fields := relation.fields ++ added } ∧
    ∀ field ∈ added, field.keyPart = none ∧ ∀ old ∈ relation.fields, field.name ≠ old.name

namespace Resolver

/-- A schema that has grown beside a specification: there are relations with new ids, relations with
new fields, and new foreign keys between relations that the specification does not link by key. -/
structure GrowsBeside (r : Resolver) (root : TableSpec) (larger : Database) : Prop where
  productName : larger.productName = r.database.productName
  casePolicy : larger.casePolicy = r.database.casePolicy
  relations : Extends Relation.Grows
    (fun relation => ∀ old ∈ r.database.relations, relation.id ≠ old.id)
    r.database.relations larger.relations
  foreignKeys : Extends Eq (fun key => (key.child, key.parent) ∉ r.keyLinks root)
    r.database.foreignKeys larger.foreignKeys

instance (relation : Relation) (name : String) : Decidable (relation.Requires name) :=
  decidable_of_iff ((relation.field? name).bind (·.nullable) = some false)
    (by simp [Relation.Requires, Option.bind_eq_some_iff])

/-- A foreign key that is followed to a parent may have columns that its relation lacks. If no
column of it is required, then these are not required in the larger schema either. -/
def KeepsGaps (r : Resolver) (root : TableSpec) (larger : Database) : Prop :=
  ∀ key ∈ r.followedKeys root, ∀ relation ∈ r.database.relation? key.child,
    (∀ column ∈ key.columns, ¬ relation.Requires column.child) →
    ∀ column ∈ key.columns, relation.field? column.child = none →
      ∀ grown ∈ larger.relation? key.child, ¬ grown.Requires column.child

instance (r : Resolver) (root : TableSpec) (larger : Database) :
    Decidable (r.KeepsGaps root larger) :=
  inferInstanceAs (Decidable (∀ key ∈ r.followedKeys root,
    ∀ relation ∈ r.database.relation? key.child,
      (∀ column ∈ key.columns, ¬ relation.Requires column.child) →
      ∀ column ∈ key.columns, relation.field? column.child = none →
        ∀ grown ∈ larger.relation? key.child, ¬ grown.Requires column.child))

end Resolver

/-! ### Relations -/

namespace Relation.Grows

variable {relation grown : Relation}

theorem id_eq (grows : relation.Grows grown) : grown.id = relation.id := by
  obtain ⟨added, rfl, -⟩ := grows
  rfl

/-- A field is found where it was, before the new ones. -/
theorem field? (grows : relation.Grows grown) {name : String} {field : Field}
    (found : relation.field? name = some field) : grown.field? name = some field := by
  obtain ⟨added, rfl, -⟩ := grows
  unfold Relation.field? at found ⊢
  rw [List.find?_append, found]
  rfl

/-- The primary key is the same. -/
theorem keyFields (grows : relation.Grows grown) : grown.keyFields = relation.keyFields := by
  obtain ⟨added, rfl, fresh⟩ := grows
  have none : added.filter (·.keyPart.isSome) = [] := by
    rw [List.filter_eq_nil_iff]
    intro field member
    simp [(fresh field member).1]
  unfold Relation.keyFields
  rw [List.filter_append, none, List.append_nil]

end Relation.Grows

/-- The relation found by an id is the last one that has it. -/
theorem Database.relation?_eq_getLast? (db : Database) (id : RelationId) :
    db.relation? id = (db.relations.filter (·.id == id)).getLast? := by
  rw [Database.relation?, ← List.head?_filter, List.filter_reverse, List.head?_reverse]

/-- **Relations are found as before**, with more fields. -/
theorem Database.relation?_of_grown {db larger : Database}
    (relations : Extends Relation.Grows
      (fun relation => ∀ old ∈ db.relations, relation.id ≠ old.id) db.relations larger.relations)
    {id : RelationId} {relation : Relation} (found : db.relation? id = some relation) :
    ∃ grown, larger.relation? id = some grown ∧ relation.Grows grown := by
  have member : relation ∈ db.relations :=
    List.mem_reverse.mp (List.mem_of_find?_eq_some found)
  have ofId := Database.id_of_relation? found
  -- An id that is found does not belong to an added relation.
  have candidates : List.Forall₂ Relation.Grows (db.relations.filter (·.id == id))
      (larger.relations.filter (·.id == id)) := by
    refine relations.filter_forall₂ ?_ ?_
    · intro old grown grows
      rw [grows.id_eq]
    · intro added new
      simpa [ofId] using new relation member
  rw [Database.relation?_eq_getLast?] at found ⊢
  exact forall₂_getLast? candidates found

namespace Resolver.GrowsBeside

variable {r : Resolver} {root : TableSpec} {larger : Database}

theorem exact_eq (grows : r.GrowsBeside root larger) (name : String) :
    larger.exact name = r.database.exact name :=
  congrArg (CasePolicy.exact · name) grows.casePolicy

/-- A table name stands for the same relation, with more fields. -/
theorem relation? (grows : r.GrowsBeside root larger) {table : String} {relation : Relation}
    (found : r.relation? table = some relation) :
    ∃ grown, ({ r with database := larger } : Resolver).relation? table = some grown ∧
      larger.relation? relation.id = some grown ∧ relation.Grows grown := by
  obtain ⟨grown, byId, growth⟩ :=
    Database.relation?_of_grown grows.relations (relation?_id found)
  refine ⟨grown, relation?_eq_some.mpr ?_, byId, growth⟩
  rcases relation?_eq_some.mp found with ⟨parts, named, default, stored⟩ |
    ⟨parts, schemaNamed, named, stored⟩
  · refine .bare parts named default ?_
    rw [grows.exact_eq, grows.exact_eq, ← Database.id_of_relation? stored]
    exact byId
  · refine .qualified parts schemaNamed named ?_
    rw [grows.exact_eq, grows.exact_eq, ← Database.id_of_relation? stored]
    exact byId

/-- **The foreign keys between linked relations are the same.** -/
theorem foreignKeysBetween (grows : r.GrowsBeside root larger) {child parent : RelationId}
    (linked : (child, parent) ∈ r.keyLinks root) :
    larger.foreignKeysBetween child parent = r.database.foreignKeysBetween child parent := by
  unfold Database.foreignKeysBetween
  have same : List.Forall₂ Eq
      (r.database.foreignKeys.filter fun key => key.child == child && key.parent == parent)
      (larger.foreignKeys.filter fun key => key.child == child && key.parent == parent) := by
    refine grows.foreignKeys.filter_forall₂ ?_ ?_
    · rintro key _ rfl
      rfl
    · intro key unlinked
      by_contra between
      simp only [Bool.not_eq_false, Bool.and_eq_true, beq_iff_eq] at between
      obtain ⟨rfl, rfl⟩ := between
      exact unlinked linked
  rw [List.forall₂_eq_eq_eq] at same
  exact same.symm

/-- A grown relation has what a query takes from it. -/
theorem covers (gaps : r.KeepsGaps root larger) {relation grown : Relation}
    (found : r.database.relation? relation.id = some relation)
    (foundGrown : larger.relation? relation.id = some grown) (growth : relation.Grows grown) :
    r.Covers root relation grown where
  id := growth.id_eq
  key := congrArg (List.map Field.name) growth.keyFields
  field _ _ := growth.field?
  certain key followed child := by
    rintro ⟨column, inKey, required⟩
    rw [← child] at found foundGrown
    by_contra uncertain
    push Not at uncertain
    -- A column that is required now was required before, or it was not there.
    cases stored : relation.field? column.child with
    | none =>
        exact gaps key followed relation found uncertain column inKey stored grown foundGrown
          required
    | some field =>
        obtain ⟨other, inGrown, notNull⟩ := required
        rw [growth.field? stored] at inGrown
        cases inGrown
        exact uncertain column inKey ⟨field, stored, notNull⟩

theorem carries (grows : r.GrowsBeside root larger) (gaps : r.KeepsGaps root larger) :
    r.Carries { r with database := larger } .same root where
  naming := rfl
  casePolicy := grows.casePolicy
  columns _ := rfl
  tables table _ relation found := by
    obtain ⟨grown, foundGrown, byId, growth⟩ := grows.relation? found
    exact ⟨grown, foundGrown, covers gaps (relation?_id found) byId growth⟩
  keys _ _ := grows.foreignKeysBetween

/-- **The plan of a query is the same in the larger schema.** -/
theorem plan (grows : r.GrowsBeside root larger) (gaps : r.KeepsGaps root larger)
    {location : Location} {plan : TablePlan} (planned : r.plan location root = .ok plan) :
    ({ r with database := larger } : Resolver).plan location root = .ok plan := by
  have carried : ({ r with database := larger } : Resolver).plan location (root.respell .same) =
      .ok (plan.respell id) := (grows.carries gaps).plan planned
  rwa [TableSpec.respell_same, TablePlan.respell_id] at carried

end Resolver.GrowsBeside

/-! ### Queries -/

/-- The statements of a query depend on the schema only by its plan. -/
theorem Query.statements_congr {r other : Resolver} {query : Query}
    (same : other.plan (Location.root query.name) query.table =
      r.plan (Location.root query.name) query.table) :
    query.statements other = query.statements r := by
  have each : ∀ representation,
      query.statement other representation = query.statement r representation := by
    intro representation
    by_cases locked : (query.locksRows && representation != .multiColumnRows) = true
    · rw [query.statement_of_locked other locked, query.statement_of_locked r locked]
    · rw [Bool.not_eq_true] at locked
      rw [query.statement_eq_plan other representation locked,
        query.statement_eq_plan r representation locked, same]
  unfold Query.statements
  simp only [each]

/-- A query is compiled to the same if its statements and result types are the same. -/
theorem GroupCompiler.compileQuery_congr {compiler other : GroupCompiler} {query : Query}
    (writer : other.writer = compiler.writer) (options : other.options = compiler.options)
    (statements : query.statements (other.resolver query) =
      query.statements (compiler.resolver query))
    (types : other.resultTypes query = compiler.resultTypes query) :
    other.compileQuery query = compiler.compileQuery query := by
  have sqls : ∀ made, other.sqls query.name made = compiler.sqls query.name made := by
    intro made
    unfold GroupCompiler.sqls
    rw [writer]
  have source : ∀ sqls paramNames named, other.sourceOf query sqls paramNames named =
      compiler.sourceOf query sqls paramNames named := by
    intro sqls paramNames named
    unfold GroupCompiler.sourceOf
    rw [options]
  have body : other.compileBody query = compiler.compileBody query := by
    unfold GroupCompiler.compileBody
    simp only [statements, types, sqls, source]
  unfold GroupCompiler.compileQuery
  rw [body]

/-- **Unrelated growth changes nothing.** Let a query be accepted, and let the schema grow beside it
without filling a gap in its foreign keys. Then the statements and the result types are the same,
SQL is written the same way, and every compiler gives the types the same names and compiles the
query to the same texts. -/
theorem unrelated_growth_changes_nothing (r : Resolver) (query : Query) (larger : Database)
    {types : List ResultType} (accepted : query.table.resultTypes r query.name = .ok types)
    (grows : r.GrowsBeside query.table larger) (gaps : r.KeepsGaps query.table larger) :
    query.statements { r with database := larger } = query.statements r ∧
      query.table.resultTypes { r with database := larger } query.name = .ok types ∧
      (∀ schemas, SqlWriter.forDatabase larger schemas = SqlWriter.forDatabase r.database schemas) ∧
      ∀ compiler : GroupCompiler, compiler.resolver query = r →
        ({ compiler with database := larger } : GroupCompiler).resultTypes query =
            compiler.resultTypes query ∧
          ({ compiler with database := larger } : GroupCompiler).compileQuery query =
            compiler.compileQuery query := by
  rw [TableSpec.resultTypes_eq_plan, map_eq_ok] at accepted
  obtain ⟨plan, planned, rfl⟩ := accepted
  have same := (grows.plan gaps planned).trans planned.symm
  have statements := Query.statements_congr same
  have types : query.table.resultTypes { r with database := larger } query.name =
      query.table.resultTypes r query.name := by
    rw [TableSpec.resultTypes_eq_plan, TableSpec.resultTypes_eq_plan, same]
  refine ⟨statements, ?_, ?_, ?_⟩
  · rw [types, TableSpec.resultTypes_eq_plan, planned]
    rfl
  · intro schemas
    unfold SqlWriter.forDatabase
    rw [grows.productName, grows.casePolicy]
  · rintro compiler rfl
    have named : ({ compiler with database := larger } : GroupCompiler).resultTypes query =
        compiler.resultTypes query := by
      unfold GroupCompiler.resultTypes
      rw [← types]
      rfl
    exact ⟨named, GroupCompiler.compileQuery_congr rfl rfl statements named⟩

/-! ### Growth that changes nothing -/

namespace Pharmacy

/-- Drugs get a note and a code, which has to be there. -/
def withNotes (relation : Relation) : Relation :=
  if relation.id.name = "drug" then
    { relation with
      fields := relation.fields ++ [textField "note" 100 true, intField "code" false] }
  else relation

/-- There is a new table about the drugs, and compounds refer to a drug. -/
def audited : Database :=
  { lowerCase with
    relations := lowerCase.relations.map withNotes ++ [table "audit" [keyField "drug_id" 1]]
    foreignKeys := lowerCase.foreignKeys.map id ++
      [foreignKey "audit" "drug" "drug_id" "id", foreignKey "compound" "drug" "code" "code"] }

/-- The drug query in a group of its own. -/
def group : QueryGroup := ⟨some schema, some .asInDatabase, [], [drugQuery]⟩

theorem withNotes_grows :
    ∀ relation ∈ lowerCase.relations, relation.Grows (withNotes relation) := by
  have new : ∀ relation ∈ lowerCase.relations, relation.id.name = "drug" →
      ∀ field ∈ [textField "note" 100 true, intField "code" false],
        field.keyPart = none ∧ ∀ old ∈ relation.fields, field.name ≠ old.name := by
    decide +kernel
  intro relation member
  by_cases drug : relation.id.name = "drug"
  · exact ⟨_, if_pos drug, new relation member drug⟩
  · refine ⟨[], ?_, fun field none => nomatch none⟩
    rw [withNotes, if_neg drug, List.append_nil]

theorem audited_growsBeside : resolver.GrowsBeside drugQuery.table audited where
  productName := rfl
  casePolicy := rfl
  relations := .map_append withNotes_grows (by decide +kernel)
  foreignKeys := .map_append (fun _ _ => rfl) (by decide +kernel)

end Pharmacy

/-- The drug query in the larger schema. The code of a drug is required, but no link of the query
waits for it, and the new key from compounds to drugs goes against the link of the query. -/
theorem audited_changes_nothing :
    Pharmacy.resolver.GrowsBeside Pharmacy.drugQuery.table Pharmacy.audited ∧
      Pharmacy.resolver.KeepsGaps Pharmacy.drugQuery.table Pharmacy.audited ∧
      ∃ types,
        Pharmacy.drugQuery.table.resultTypes Pharmacy.resolver Pharmacy.drugQuery.name =
          .ok types ∧
        Pharmacy.drugQuery.table.resultTypes
          { Pharmacy.resolver with database := Pharmacy.audited } Pharmacy.drugQuery.name =
            .ok types ∧
        Pharmacy.drugQuery.statements { Pharmacy.resolver with database := Pharmacy.audited } =
          Pharmacy.drugQuery.statements Pharmacy.resolver ∧
        ∀ writer options,
          (GroupCompiler.mk Pharmacy.audited Pharmacy.group writer options).compileQuery
              Pharmacy.drugQuery =
            (GroupCompiler.mk Pharmacy.lowerCase Pharmacy.group writer options).compileQuery
              Pharmacy.drugQuery := by
  have gaps : Pharmacy.resolver.KeepsGaps Pharmacy.drugQuery.table Pharmacy.audited := by
    decide +kernel
  have names : (Pharmacy.drugQuery.table.resultTypes Pharmacy.resolver
      Pharmacy.drugQuery.name).map (·.map (·.relation.name)) =
      .ok ["drug", "analyst", "advisory"] := by
    decide +kernel
  obtain ⟨types, accepted, -⟩ := map_eq_ok.mp names
  obtain ⟨statements, sameTypes, -, compiled⟩ := unrelated_growth_changes_nothing
    Pharmacy.resolver Pharmacy.drugQuery Pharmacy.audited accepted Pharmacy.audited_growsBeside gaps
  refine ⟨Pharmacy.audited_growsBeside, gaps, types, accepted, sameTypes, statements, ?_⟩
  intro writer options
  exact (compiled (GroupCompiler.mk Pharmacy.lowerCase Pharmacy.group writer options) rfl).2

/-! ### Growth that fills a gap -/

namespace Store

/-- Labels are for aisles. -/
def label : Relation := ⟨⟨some "store", "label"⟩, .table, [number "id" false (some 1)]⟩

/-- The field of the labels that tells their aisle is only known from the foreign key. -/
def labelled : Database :=
  { database with
    relations := database.relations ++ [label]
    foreignKeys := database.foreignKeys ++
      [⟨some "label_aisle_fk", label.id, aisle.id, [⟨"aisle", "number"⟩]⟩] }

/-- Here it is known as a field as well. -/
def relabelled : Database :=
  { labelled with
    relations := database.relations ++
      [{ label with fields := label.fields ++ [number "aisle" false none] }] }

def labelResolver : Resolver := { resolver with database := labelled }

/-- Labels with their aisles. -/
def labelQuery : Query :=
  ⟨"labels",
    ⟨"label", none, [.named "id"],
      [⟨⟨none, none, none, none, none⟩,
        ⟨"aisle", none, [.named "number"], [], [], none, none⟩⟩], [], none, none⟩,
    none, none, none, none, none, [], none⟩

theorem relabelled_growsBeside : labelResolver.GrowsBeside labelQuery.table relabelled where
  productName := rfl
  casePolicy := rfl
  relations := by
    have same : ∀ relation : Relation, relation.Grows relation := fun relation =>
      ⟨[], by rw [List.append_nil], fun field none => nomatch none⟩
    have grown : label.Grows { label with fields := label.fields ++ [number "aisle" false none] } :=
      ⟨_, rfl, by decide +kernel⟩
    exact .keep (same _) (.keep (same _) (.keep (same _) (.keep grown .nil)))
  foreignKeys := .keep rfl (.keep rfl (.keep rfl .nil))

/-- Whether the rows that statements join are certain, join by join. -/
def certain (statements : List (Representation × Statement)) : List (List Bool) :=
  statements.map fun made => made.2.sources.filterMap fun source =>
    match source with
    | .table _ _ => none
    | .query _ _ join _ => some join.guaranteed

/-- Whether the fields of types may be missing, field by field. -/
def nullable (types : List ResultType) : List (List (Option Bool)) :=
  types.map fun type => type.properties.filterMap fun property =>
    match property with
    | .field _ _ nullable _ => some nullable
    | _ => none

end Store

/-- **A gap that is filled changes a query.** The labels only get one more field. Before, they need
not have an aisle, so its number may be missing; afterwards they are certain to have one. -/
theorem filled_gap_changes_labels :
    Store.labelResolver.GrowsBeside Store.labelQuery.table Store.relabelled ∧
      (∃ types, Store.labelQuery.table.resultTypes Store.labelResolver Store.labelQuery.name =
        .ok types) ∧
      Store.labelQuery.statements { Store.labelResolver with database := Store.relabelled } ≠
        Store.labelQuery.statements Store.labelResolver ∧
      Store.labelQuery.table.resultTypes { Store.labelResolver with database := Store.relabelled }
          Store.labelQuery.name ≠
        Store.labelQuery.table.resultTypes Store.labelResolver Store.labelQuery.name := by
  -- The joins tell whether a row is certain, the properties whether they may be missing.
  have joinBefore : (Store.labelQuery.statements Store.labelResolver).map Store.certain =
      .ok [[false]] := by
    decide +kernel
  have joinAfter : (Store.labelQuery.statements
      { Store.labelResolver with database := Store.relabelled }).map Store.certain =
        .ok [[true]] := by
    decide +kernel
  have typesBefore : (Store.labelQuery.table.resultTypes Store.labelResolver
      Store.labelQuery.name).map Store.nullable = .ok [[some false, some true]] := by
    decide +kernel
  have typesAfter : (Store.labelQuery.table.resultTypes
      { Store.labelResolver with database := Store.relabelled } Store.labelQuery.name).map
        Store.nullable = .ok [[some false, some false]] := by
    decide +kernel
  obtain ⟨types, accepted, -⟩ := map_eq_ok.mp typesBefore
  refine ⟨Store.relabelled_growsBeside, ⟨types, accepted⟩, ?_, ?_⟩
  · intro same
    rw [same, joinBefore] at joinAfter
    exact absurd joinAfter (by decide)
  · intro same
    rw [same, typesBefore] at typesAfter
    exact absurd typesAfter (by decide)

end NestedQuery
