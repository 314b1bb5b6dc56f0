import NestedQuery.Compile.Group
import NestedQuery.Proofs.Walk
import NestedQuery.Spec.Pharmacy

/-!
# Statements and result types agree

The statements of a query and its result types are made by two walks that know nothing of each
other. They still say the same: of the same table, the same properties, with the same names, at the
same places, down to every nested object and collection; and what one walk refuses the other one
refuses, with the same error.

## Main Definitions

* `Describes`: a statement returns what a type describes
* `EntryDescribes`: the same for an entry of a select list and a property

## Main Results

* `TablePlan.statement_describes`: the statement and the type of a plan
* `statements_describe_top_type`: all statements of a query and its first result type
* `statements_and_resultTypes_fail_alike`: acceptance and errors

## Design Notes

An entry for a property of an inline parent only names a sub-query and one of its columns. It is
matched by following it into the sub-query, as often as needed; each join on the way that may find
no parent row makes the property nullable.
-/

namespace NestedQuery

/-! ### Describing -/

mutual

/-- A statement returns what a type describes: both are about the same relation and ask for the same
type name, and at each place there is an entry and a property of the same name that match. -/
inductive Describes : Statement → ResultType → Prop
  | intro {statement : Statement} {type : ResultType}
      (table : statement.baseTable? = some type.relation)
      (typeName : statement.resultTypeName = type.typeName)
      (count : statement.select.length = type.properties.length)
      (names : ∀ (i : Nat) (entry : SelectEntry) (property : Property),
        statement.select[i]? = some entry → type.properties[i]? = some property →
          entry.name = property.name)
      (entries : ∀ (i : Nat) (entry : SelectEntry) (property : Property),
        statement.select[i]? = some entry → type.properties[i]? = some property →
          EntryDescribes statement.sources entry property) :
      Describes statement type

/-- An entry, in a statement with the given sources, returns what a property describes. -/
inductive EntryDescribes : List FromEntry → SelectEntry → Property → Prop
  /-- A field, with all that the schema tells about it. -/
  | field {sources : List FromEntry} (label : EntryLabel) (stored : Field) (tableAlias : String)
      (sourceType : Option SourceType) :
      EntryDescribes sources (.field label stored tableAlias sourceType)
        (.field label.name
          ⟨stored.name, stored.databaseType, stored.length, stored.precision,
            stored.fractionalDigits⟩
          stored.nullable sourceType)
  | expression {sources : List FromEntry} (label : EntryLabel)
      (sql placeholder tableAlias : String) (sourceType : Option SourceType) :
      EntryDescribes sources (.expression label sql placeholder tableAlias sourceType)
        (.expression label.name sql sourceType)
  /-- An object, which is missing if the sub-query may find no parent row. -/
  | reference {sources : List FromEntry} (label : EntryLabel) {query : Statement}
      {type : ResultType} {condition : MatchCondition} {others : List WhereEntry}
      (inner : Describes query type) (object : query.objectWrap = true)
      (whole : type.unwrapped = false)
      (correlated : query.conditions = .matching condition :: others) :
      EntryDescribes sources (.reference label query)
        (.reference label.name type (!condition.guaranteed))
  /-- An array, whose elements are objects unless they are unwrapped. -/
  | collection {sources : List FromEntry} (label : EntryLabel) {query : Statement}
      {type : ResultType} (inner : Describes query type) (array : query.aggregate = true)
      (wrapped : query.objectWrap = !type.unwrapped) :
      EntryDescribes sources (.collection label query) (.collection label.name type false)
  /-- A column of a joined sub-query: what the entry of that name returns there. -/
  | inlined {sources : List FromEntry} (label : EntryLabel) {parentAlias : String}
      {relation : RelationId} {query : Statement} {join : MatchCondition}
      {comment : Option String} {entry : SelectEntry} {property : Property}
      (joined : FromEntry.query query parentAlias join comment ∈ sources)
      (base : query.baseTable? = some relation) (member : entry ∈ query.select)
      (name : entry.name = label.name) (inner : EntryDescribes query.sources entry property) :
      EntryDescribes sources (.inlined label parentAlias relation)
        (if join.guaranteed then property else property.toNullable)

end

@[simp] theorem Property.name_toNullable (property : Property) :
    property.toNullable.name = property.name := by
  cases property <;> rfl

@[simp] theorem RowMatch.name_lift (matching : RowMatch) (property : Property) :
    (matching.lift property).name = property.name := by
  rw [RowMatch.lift]
  split
  · rfl
  · exact property.name_toNullable

/-! ### Columns -/

/-- An entry and a property with its display order that go together. -/
structure Column (sources : List FromEntry) (entry : SelectEntry)
    (property : Option UInt32 × Property) : Prop where
  order : entry.displayOrder = property.1
  name : entry.name = property.2.name
  describes : EntryDescribes sources entry property.2

/-- A statement whose columns go together with the properties of a type returns what the type
describes. -/
theorem Describes.of_columns {statement : Statement} {type : ResultType}
    {properties : List (Option UInt32 × Property)}
    (table : statement.baseTable? = some type.relation)
    (typeName : statement.resultTypeName = type.typeName)
    (columns : List.Forall₂ (Column statement.sources) statement.select properties)
    (equal : type.properties = properties.map Prod.snd) : Describes statement type := by
  have pairs : List.Forall₂ (fun entry property => entry.name = property.name ∧
      EntryDescribes statement.sources entry property) statement.select type.properties := by
    rw [equal, List.forall₂_map_right_iff]
    exact columns.imp fun _ _ column => ⟨column.name, column.describes⟩
  refine .intro table typeName pairs.length_eq ?_ ?_
  · intro i entry property left right
    exact (forall₂_getElem? pairs left right).1
  · intro i entry property left right
    exact (forall₂_getElem? pairs left right).2

theorem PlannedField.column (sources : List FromEntry) (aliasName : String)
    (field : PlannedField) :
    Column sources (field.entry aliasName) (field.displayOrder, field.property) := by
  obtain ⟨name, source, sourceType, displayOrder⟩ := field
  cases source with
  | field stored => exact ⟨rfl, rfl, .field ..⟩
  | expression sql placeholder => exact ⟨rfl, rfl, .expression ..⟩

/-- Lifting keeps columns together: the entry follows the join into the sub-query, the property is
nullable if the join may find no row. -/
theorem Column.lift {sources : List FromEntry} {parent : Statement} {subqueryAlias : String}
    {join : MatchCondition} {comment note : Option String} {relation : RelationId}
    {matching : RowMatch}
    (joined : FromEntry.query parent subqueryAlias join comment ∈ sources)
    (base : parent.baseTable? = some relation) (same : join.guaranteed = matching.guaranteed)
    {entry : SelectEntry} {property : Option UInt32 × Property} (member : entry ∈ parent.select)
    (column : Column parent.sources entry property) :
    Column sources (.inlined ⟨entry.name, entry.displayOrder, note⟩ subqueryAlias relation)
      (property.1, matching.lift property.2) where
  order := column.order
  name := by
    rw [matching.name_lift]
    exact column.name
  describes := by
    have inner := EntryDescribes.inlined ⟨entry.name, entry.displayOrder, note⟩ joined base member
      rfl column.describes
    rw [same] at inner
    exact inner

theorem liftedEntries_columns {sources : List FromEntry} {parent : Statement}
    {subqueryAlias written : String} {join : MatchCondition} {comment : Option String}
    {relation : RelationId} {matching : RowMatch}
    (joined : FromEntry.query parent subqueryAlias join comment ∈ sources)
    (base : parent.baseTable? = some relation) (same : join.guaranteed = matching.guaranteed)
    {properties : List (Option UInt32 × Property)}
    (columns : List.Forall₂ (Column parent.sources) parent.select properties) :
    List.Forall₂ (Column sources) (liftedEntries subqueryAlias written relation parent)
      (properties.map fun property => (property.1, matching.lift property.2)) := by
  rw [liftedEntries, List.forall₂_map_left_iff, List.forall₂_map_right_iff]
  -- The positions only decide on a comment.
  have members : ∀ entry ∈ parent.select.zipIdx, entry.1 ∈ parent.select :=
    fun entry member => List.fst_mem_of_mem_zipIdx member
  have indexed : List.Forall₂ (fun entry property => Column parent.sources entry.1 property)
      parent.select.zipIdx properties := by
    rw [← List.forall₂_map_left_iff, List.zipIdx_map_fst]
    exact columns
  refine ((List.forall₂_and_left _ _).mpr ⟨members, indexed⟩).imp ?_
  rintro ⟨entry, position⟩ property ⟨member, column⟩
  exact column.lift joined base same member

/-! ### Plans -/

namespace TablePlan

theorem baseTable?_statement (plan : TablePlan) (site : Site) :
    (plan.statement site).baseTable? = some plan.head.relation := by
  obtain ⟨head, inlined, references, collections⟩ := plan
  rw [TablePlan.statement]
  rfl

theorem resultTypeName_statement (plan : TablePlan) (site : Site) :
    (plan.statement site).resultTypeName = plan.head.resultTypeName := by
  obtain ⟨head, inlined, references, collections⟩ := plan
  rw [TablePlan.statement]
  rfl

/-- A correlated statement begins its conditions with the correlation. -/
theorem conditions_statement (plan : TablePlan) (site : Site) {correlation : Correlation}
    (correlated : site.correlation = some correlation) :
    ∃ aliasName others, (plan.statement site).conditions =
      .matching (correlation.condition aliasName) :: others := by
  obtain ⟨head, inlined, references, collections⟩ := plan
  rw [TablePlan.statement]
  refine ⟨head.aliasIn site.scope, (head.conditions (head.aliasIn site.scope) site).tail, ?_⟩
  change head.conditions (head.aliasIn site.scope) site = _
  rw [TableHead.conditions, correlated]
  rfl

/-- The columns of the statement of a plan go together with the properties of the plan. -/
def HasColumns (query : String) (plan : TablePlan) : Prop :=
  ∀ site, List.Forall₂ (Column (plan.statement site).sources) (plan.statement site).select
    (plan.properties query)

end TablePlan

theorem InlinedParent.joins_columns {query : String} {parents : List InlinedParent}
    (inner : ∀ parent ∈ parents, parent.plan.HasColumns query) {tableAlias : String}
    {scope : AliasScope} {sources : List FromEntry}
    (within : ∀ source ∈ (InlinedParent.joins tableAlias scope parents).sources,
      source ∈ sources) :
    List.Forall₂ (Column sources) (InlinedParent.joins tableAlias scope parents).entries
      (InlinedParent.properties query parents) := by
  -- The scope grows with every join; the sources seen by the entries stay those of the statement.
  induction parents generalizing scope with
  | nil => exact .nil
  | cons parent parents ih =>
      obtain ⟨link, plan⟩ := parent
      rw [InlinedParent.joins] at within ⊢
      rw [InlinedParent.properties]
      refine List.rel_append ?_ ?_
      · exact liftedEntries_columns (within _ List.mem_cons_self) (plan.baseTable?_statement _) rfl
          (inner _ List.mem_cons_self _)
      · exact ih (fun parent member => inner parent (List.mem_cons_of_mem _ member))
          (fun source member => within source (List.mem_cons_of_mem _ member))

theorem Reference.entries_columns {query : String} {references : List Reference}
    (inner : ∀ parent ∈ references, parent.plan.HasColumns query) (tableAlias : String)
    (scope : AliasScope) (sources : List FromEntry) :
    List.Forall₂ (Column sources) (Reference.entries tableAlias scope references)
      (Reference.properties query references) := by
  induction references with
  | nil => exact .nil
  | cons reference references ih =>
      obtain ⟨link, plan⟩ := reference
      have rest := ih fun parent member => inner parent (List.mem_cons_of_mem _ member)
      rw [Reference.entries, Reference.properties]
      refine .cons ⟨rfl, rfl, ?_⟩ rest
      obtain ⟨aliasName, others, correlated⟩ :=
        plan.conditions_statement (link.site tableAlias scope) rfl
      have object : Describes
          { plan.statement (link.site tableAlias scope) with objectWrap := true }
          (plan.resultType query) :=
        .of_columns (plan.baseTable?_statement _) (plan.resultTypeName_statement _)
          (inner ⟨link, plan⟩ List.mem_cons_self _) rfl
      exact .reference _ object rfl rfl correlated

theorem Collection.entries_columns {query : String} {collections : List Collection}
    (inner : ∀ child ∈ collections, child.plan.HasColumns query) (tableAlias : String)
    (scope : AliasScope) (sources : List FromEntry) :
    List.Forall₂ (Column sources) (Collection.entries tableAlias scope collections)
      (Collection.properties query collections) := by
  induction collections with
  | nil => exact .nil
  | cons collection collections ih =>
      obtain ⟨link, plan⟩ := collection
      have rest := ih fun child member => inner child (List.mem_cons_of_mem _ member)
      rw [Collection.entries, Collection.properties]
      refine .cons ⟨rfl, rfl, ?_⟩ rest
      have array : Describes
          { plan.statement (link.site tableAlias scope) with
            aggregate := true
            objectWrap := !link.unwrap
            leadingComment := some (baseQueryComment plan.head.linked.written) }
          { plan.resultType query with unwrapped := link.unwrap } :=
        .of_columns (plan.baseTable?_statement _) (plan.resultTypeName_statement _)
          (inner ⟨link, plan⟩ List.mem_cons_self _) rfl
      exact .collection _ array rfl rfl

/-- At every place of its select list, the statement of a plan has the entry for the property that
the plan has there. -/
theorem TablePlan.hasColumns (query : String) (plan : TablePlan) : plan.HasColumns query := by
  induction plan using TablePlan.tree_induction with
  | step plan inlined references collections =>
      intro site
      obtain ⟨head, inlinedPlans, referencePlans, collectionPlans⟩ := plan
      rw [TablePlan.statement, TablePlan.properties]
      -- Both lists are sorted by the same display orders, so unsorted ones can be compared.
      refine inDisplayOrder_forall₂ (fun _ _ column => column.order) ?_
      refine List.rel_append (List.rel_append (List.rel_append ?_ ?_) ?_) ?_
      · rw [List.forall₂_map_left_iff, List.forall₂_map_right_iff]
        exact List.forall₂_same.mpr fun field _ => field.column _ _
      · exact InlinedParent.joins_columns inlined fun source member =>
          List.mem_cons_of_mem _ member
      · exact Reference.entries_columns references _ _ _
      · exact Collection.entries_columns collections _ _ _

/-- The statement of a plan, at any site, returns what the type of the plan describes. -/
theorem TablePlan.statement_describes (query : String) (plan : TablePlan) (site : Site) :
    Describes (plan.statement site) (plan.resultType query) :=
  .of_columns (plan.baseTable?_statement site) (plan.resultTypeName_statement site)
    (plan.hasColumns query site) rfl

/-- How the rows of a statement are returned changes neither its columns nor its table. -/
theorem Describes.congr {statement other : Statement} {type : ResultType}
    (described : Describes statement type) (same : other.SameRows statement) :
    Describes other type := by
  obtain ⟨table, typeName, count, names, entries⟩ := described
  have base : other.baseTable? = statement.baseTable? := by
    rw [Statement.baseTable?, Statement.baseTable?, same.sources]
  rw [← same.select] at count names entries
  rw [← same.sources] at entries
  exact .intro (base.trans table) (same.resultTypeName.trans typeName) count names entries

/-! ### Queries -/

namespace Query

variable {r : Resolver} {query : Query}

/-- A statement in a representation is that of a plan. -/
theorem statement_eq_ok {representation : Representation} {statement : Statement}
    (made : query.statement r representation = .ok statement) :
    ∃ plan, r.plan (Location.root query.name) query.table = .ok plan ∧
      statement = query.represent (plan.statement { orderBy := query.orderBy }) representation := by
  cases allowed : query.locksRows && representation != .multiColumnRows with
  | true =>
      simp only [Query.statement, allowed, if_true] at made
      cases made
  | false =>
      rw [query.statement_eq_plan r representation allowed] at made
      cases planned : r.plan (Location.root query.name) query.table with
      | error error =>
          rw [planned] at made
          cases made
      | ok plan =>
          rw [planned] at made
          exact ⟨plan, rfl, (Except.ok.inj made).symm⟩

/-- Each of the statements of a query is its statement in some representation. -/
theorem statement_of_mem_statements {statements : List (Representation × Statement)}
    (made : query.statements r = .ok statements) {representation : Representation}
    {statement : Statement} (member : (representation, statement) ∈ statements) :
    query.statement r representation = .ok statement := by
  rw [Query.statements] at made
  split at made
  · cases made
  · rw [mapM_eq_ok] at made
    obtain ⟨wanted, -, step⟩ := forall₂_mem_right made member
    rw [bind_eq_ok] at step
    obtain ⟨result, stated, equal⟩ := step
    cases equal
    exact stated

theorem eraseDups_eq_cons {representations : List Representation}
    (nonempty : representations ≠ []) :
    ∃ first others, representations.eraseDups = first :: others := by
  obtain ⟨first, others, rfl⟩ := List.exists_cons_of_ne_nil nonempty
  exact ⟨first, _, List.eraseDups_cons⟩

/-- A query with statements has a plan. -/
theorem plan_of_statements {statements : List (Representation × Statement)}
    (made : query.statements r = .ok statements) :
    ∃ plan, r.plan (Location.root query.name) query.table = .ok plan := by
  rw [Query.statements] at made
  split at made
  · cases made
  · rename_i wanted
    obtain ⟨first, others, equal⟩ := eraseDups_eq_cons wanted
    rw [equal, List.mapM_cons, bind_eq_ok] at made
    obtain ⟨entry, firstMade, -⟩ := made
    rw [bind_eq_ok] at firstMade
    obtain ⟨statement, stated, -⟩ := firstMade
    obtain ⟨plan, planned, -⟩ := statement_eq_ok stated
    exact ⟨plan, planned⟩

/-- All statements of a query at once, from its plan. -/
theorem statements_eq_plan (wanted : query.wantedRepresentations ≠ [])
    (lockable : query.locksRows = false ∨
      ∀ representation ∈ query.wantedRepresentations, representation = .multiColumnRows) :
    query.statements r = (r.plan (Location.root query.name) query.table).map fun plan =>
      query.wantedRepresentations.eraseDups.map fun representation =>
        (representation,
          query.represent (plan.statement { orderBy := query.orderBy }) representation) := by
  have each : ∀ representation ∈ query.wantedRepresentations.eraseDups,
      query.statement r representation =
        (r.plan (Location.root query.name) query.table).map fun plan =>
          query.represent (plan.statement { orderBy := query.orderBy }) representation := by
    intro representation member
    refine query.statement_eq_plan r representation ?_
    rcases lockable with unlocked | rows
    · rw [unlocked, Bool.false_and]
    · rw [rows representation (List.mem_eraseDups.mp member)]
      exact Bool.and_false _
  rw [Query.statements]
  split
  · contradiction
  · cases planned : r.plan (Location.root query.name) query.table with
    | error error =>
        -- The first statement fails already, and there is a first one.
        obtain ⟨first, others, equal⟩ := eraseDups_eq_cons wanted
        have failed := each first (by rw [equal]; exact List.mem_cons_self)
        rw [equal, List.mapM_cons, failed, planned]
        rfl
    | ok plan =>
        refine mapM_eq_ok.mpr ?_
        rw [List.forall₂_map_right_iff]
        refine List.forall₂_same.mpr fun representation member => ?_
        rw [each representation member, planned]
        rfl

end Query

/-- **Statements and types describe the same data.** Whatever the schema, the settings and the
query: if the statements and the result types can be made, then every statement returns what the
first of the types describes. -/
theorem statements_describe_top_type (r : Resolver) (query : Query)
    {statements : List (Representation × Statement)} {types : List ResultType}
    (made : query.statements r = .ok statements)
    (typed : query.table.resultTypes r query.name = .ok types) :
    ∃ top others, types = top :: others ∧
      ∀ representation statement, (representation, statement) ∈ statements →
        Describes statement top := by
  rw [TableSpec.resultTypes_eq_plan] at typed
  cases planned : r.plan (Location.root query.name) query.table with
  | error error =>
      rw [planned] at typed
      cases typed
  | ok plan =>
      rw [planned] at typed
      refine ⟨plan.resultType query.name, _, (Except.ok.inj typed).symm, ?_⟩
      intro representation statement member
      obtain ⟨found, foundPlan, rfl⟩ :=
        Query.statement_eq_ok (Query.statement_of_mem_statements made member)
      rw [planned] at foundPlan
      cases foundPlan
      exact (plan.statement_describes query.name _).congr (query.represent_sameRows _ _)

/-- The drug query in both of its representations. Its properties come from the drugs themselves,
from their compounds, and from the analysts who approved these. -/
theorem drugQuery_statements_describe_top_type :
    ∃ statements top others,
      Pharmacy.drugQuery.statements Pharmacy.resolver = .ok statements ∧
      Pharmacy.drugQuery.table.resultTypes Pharmacy.resolver Pharmacy.drugQuery.name =
        .ok (top :: others) ∧
      statements.map Prod.fst = [.jsonObjectRows, .jsonArrayRow] ∧
      top.properties.map (·.name) = ["name", "registered_by", "therapeutic_indications",
        "entered_by", "short_name", "advisories", "brands"] ∧
      ∀ representation statement, (representation, statement) ∈ statements →
        Describes statement top := by
  have names : (Pharmacy.drugQuery.table.resultTypes Pharmacy.resolver Pharmacy.drugQuery.name).map
      (·.map fun type => type.properties.map (·.name)) =
      .ok [["name", "registered_by", "therapeutic_indications", "entered_by", "short_name",
        "advisories", "brands"], ["short_name"], ["text", "name"]] := by
    decide +kernel
  obtain ⟨statements, made, wanted⟩ := Pharmacy.statements_drugQuery
  obtain ⟨types, typed, properties⟩ := map_eq_ok.mp names
  obtain ⟨top, others, rfl, described⟩ := statements_describe_top_type _ _ made typed
  exact ⟨statements, top, others, made, typed, wanted, (List.cons.inj properties).1, described⟩

/-- **Statements and result types are refused alike.** For a query that asks for some
representation, and to lock rows only where they can be locked, the statements can be made just if
the result types can; if not, the error is the same. So once a compiler has the statements of a
query, its result types can only fail by their names. -/
theorem statements_and_resultTypes_fail_alike (r : Resolver) (query : Query) :
    (query.wantedRepresentations ≠ [] →
      (query.locksRows = false ∨
        ∀ representation ∈ query.wantedRepresentations, representation = .multiColumnRows) →
      ((∃ statements, query.statements r = .ok statements) ↔
        ∃ types, query.table.resultTypes r query.name = .ok types) ∧
      ∀ error, query.statements r = .error error ↔
        query.table.resultTypes r query.name = .error error) ∧
    ∀ compiler : GroupCompiler, compiler.resolver query = r →
      ∀ statements, query.statements r = .ok statements →
        ∃ types, query.table.resultTypes r query.name = .ok types ∧
          compiler.resultTypes query = NamedTypes.assign query.name types := by
  constructor
  · intro wanted lockable
    rw [Query.statements_eq_plan wanted lockable, TableSpec.resultTypes_eq_plan]
    cases r.plan (Location.root query.name) query.table with
    | error error => simp [Except.map]
    | ok plan => simp [Except.map]
  · rintro compiler rfl statements made
    obtain ⟨plan, planned⟩ := Query.plan_of_statements made
    have typed := TableSpec.resultTypes_eq_plan (compiler.resolver query) query.name query.table
    rw [planned] at typed
    refine ⟨_, typed, ?_⟩
    rw [GroupCompiler.resultTypes, typed]
    rfl

/-- A query that is accepted and one that is not, each by both walks. -/
theorem pharmacy_queries_fail_alike :
    (∃ statements types,
      Pharmacy.drugQuery.statements Pharmacy.resolver = .ok statements ∧
      Pharmacy.drugQuery.table.resultTypes Pharmacy.resolver Pharmacy.drugQuery.name = .ok types ∧
      GroupCompiler.resultTypes
        ⟨Pharmacy.lowerCase, ⟨some Pharmacy.schema, some .asInDatabase, [], []⟩,
          ⟨.postgres, [], true⟩, none⟩ Pharmacy.drugQuery =
        NamedTypes.assign Pharmacy.drugQuery.name types) ∧
    Pharmacy.bareAdvisoryQuery.table.resultTypes Pharmacy.resolver Pharmacy.bareAdvisoryQuery.name =
      .error ⟨⟨"drugs query", ["collection 'advisories' of 'advisory' records"]⟩,
        .invalidUnwrap 2⟩ ∧
    Pharmacy.bareAdvisoryQuery.statements Pharmacy.resolver =
      .error ⟨⟨"drugs query", ["collection 'advisories' of 'advisory' records"]⟩,
        .invalidUnwrap 2⟩ := by
  have accepted := statements_and_resultTypes_fail_alike Pharmacy.resolver Pharmacy.drugQuery
  have refused :=
    statements_and_resultTypes_fail_alike Pharmacy.resolver Pharmacy.bareAdvisoryQuery
  have fault : Pharmacy.bareAdvisoryQuery.table.resultTypes Pharmacy.resolver
      Pharmacy.bareAdvisoryQuery.name =
      .error ⟨⟨"drugs query", ["collection 'advisories' of 'advisory' records"]⟩,
        .invalidUnwrap 2⟩ := by
    decide +kernel
  obtain ⟨statements, made, -⟩ := Pharmacy.statements_drugQuery
  obtain ⟨types, typed, named⟩ := accepted.2
    ⟨Pharmacy.lowerCase, ⟨some Pharmacy.schema, some .asInDatabase, [], []⟩,
      ⟨.postgres, [], true⟩, none⟩ rfl statements made
  refine ⟨⟨statements, types, made, typed, named⟩, fault, ?_⟩
  exact ((refused.1 (by decide) (Or.inl rfl)).2 _).mpr fault

end NestedQuery
