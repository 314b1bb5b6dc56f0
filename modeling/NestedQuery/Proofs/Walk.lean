import NestedQuery.Proofs.DisplayOrder
import NestedQuery.Proofs.Resolution
import NestedQuery.ResultType.Build
import NestedQuery.Statement.Build

/-!
# The walk in closed form

A walk resolves, checks and builds in one pass, and it checks what the fold has built: how many
entries there are. Here it is split in two. Resolving and checking is the plan, which knows nothing
of the fold; building is a total function of the plan. The split is possible for a fold that lifts
the properties of an inline parent one for one, since only then does the count of the walk not
depend on what is built.

## Main Results

* `Resolver.walkTable_eq_build`: the walk is the plan followed by the building
* `Resolver.walk_statementFold`, `Resolver.walk_resultTypeFold`: the two walks by means of
  `TablePlan.statement` and `TablePlan.resultType`
-/

namespace NestedQuery

@[simp] theorem TableHead.linked_relation (head : TableHead) :
    head.linked.relation = head.relation := rfl

@[simp] theorem TableHead.linked_written (head : TableHead) :
    head.linked.written = head.written := rfl

section Walks

variable {Site Frame Entry Output : Type}

namespace TableFold

variable (fold : TableFold Site Frame Entry Output)

mutual

/-- What a fold makes of a plan. -/
def build (site : Site) : TablePlan → Walked Output
  | ⟨head, inlined, references, collections⟩ =>
    let frame := fold.start head site
    let lifted := buildInlined inlined frame
    let ordered := inDisplayOrder Prod.fst
      (head.fields.map (fun field => (field.displayOrder, fold.fieldEntry frame field))
        ++ lifted.2 ++ buildReferences lifted.1 references
        ++ buildCollections lifted.1 collections)
    ⟨fold.finish head lifted.1 (ordered.map Prod.snd), ordered.map Prod.fst⟩
termination_by structural plan => plan

/-- What a fold makes of inline parents: the frame that they leave, and their entries. -/
def buildInlined : List InlinedParent → Frame → Frame × List (Option UInt32 × Entry)
  | [], frame => (frame, [])
  | ⟨link, plan⟩ :: parents, frame =>
    let opened := fold.inlineSite frame link plan.head.linked
    let built := build opened.2 plan
    let lifted := fold.inlineEntries opened.1 link plan.head.linked built.output
    let others := buildInlined parents lifted.1
    (others.1, built.displayOrders.zip lifted.2 ++ others.2)
termination_by structural parents => parents

/-- What a fold makes of referenced parents. -/
def buildReferences (frame : Frame) : List Reference → List (Option UInt32 × Entry)
  | [] => []
  | ⟨link, plan⟩ :: references =>
    (link.displayOrder, fold.referenceEntry frame link plan.head.linked
      (build (fold.referenceSite frame link) plan).output) :: buildReferences frame references
termination_by structural references => references

/-- What a fold makes of children. -/
def buildCollections (frame : Frame) : List Collection → List (Option UInt32 × Entry)
  | [] => []
  | ⟨link, plan⟩ :: collections =>
    (link.displayOrder, fold.collectionEntry frame link plan.head.linked
      (build (fold.collectionSite frame link) plan).output) :: buildCollections frame collections
termination_by structural collections => collections

end

/-- A fold lifts one for one if what it makes of a table tells the number of properties, and if it
lifts just as many entries from an inline parent. -/
structure LiftsOneForOne (size : Output → Nat) : Prop where
  size_finish : ∀ head frame entries, size (fold.finish head frame entries) = entries.length
  length_inlineEntries : ∀ frame link table output,
    (fold.inlineEntries frame link table output).2.length = size output

/-! ### Counting -/

@[simp] theorem length_buildReferences (frame : Frame) (references : List Reference) :
    (fold.buildReferences frame references).length = references.length := by
  induction references with
  | nil => rfl
  | cons reference references ih =>
      obtain ⟨link, plan⟩ := reference
      rw [buildReferences, List.length_cons, List.length_cons, ih]

@[simp] theorem length_buildCollections (frame : Frame) (collections : List Collection) :
    (fold.buildCollections frame collections).length = collections.length := by
  induction collections with
  | nil => rfl
  | cons collection collections ih =>
      obtain ⟨link, plan⟩ := collection
      rw [buildCollections, List.length_cons, List.length_cons, ih]

variable {fold} {size : Output → Nat}

theorem length_buildInlined (lawful : fold.LiftsOneForOne size) {parents : List InlinedParent}
    (counts : ∀ parent ∈ parents, ∀ site,
      (fold.build site parent.plan).displayOrders.length = parent.plan.propertyCount ∧
        size (fold.build site parent.plan).output = parent.plan.propertyCount) (frame : Frame) :
    (fold.buildInlined parents frame).2.length = InlinedParent.propertyCountAll parents := by
  induction parents generalizing frame with
  | nil => rfl
  | cons parent parents ih =>
      obtain ⟨link, plan⟩ := parent
      obtain ⟨orders, entries⟩ := counts ⟨link, plan⟩ List.mem_cons_self
        (fold.inlineSite frame link plan.head.linked).2
      have rest := ih fun parent member => counts parent (List.mem_cons_of_mem _ member)
      rw [buildInlined, InlinedParent.propertyCountAll, List.length_append, List.length_zip, rest,
        lawful.length_inlineEntries, orders, entries, Nat.min_self]

/-- What is built has as many display orders, and is told to have as many properties, as the plan
has properties. -/
theorem build_count (lawful : fold.LiftsOneForOne size) (plan : TablePlan) :
    ∀ site, (fold.build site plan).displayOrders.length = plan.propertyCount ∧
      size (fold.build site plan).output = plan.propertyCount := by
  induction plan using TablePlan.tree_induction with
  | step plan inlinedCounts _ _ =>
      intro site
      obtain ⟨head, inlined, references, collections⟩ := plan
      have lifted := length_buildInlined lawful inlinedCounts (fold.start head site)
      simp only [build, TablePlan.propertyCount, lawful.size_finish, List.length_map,
        length_inDisplayOrder, List.length_append, length_buildReferences,
        length_buildCollections, lifted, and_self]

end TableFold

/-! ### Walking is planning and building -/

/-- Two computations with a common first step: it is enough to compare what follows it. -/
theorem bind_eq_map_bind {x : Except ε α} {f : α → Except ε β} {g : α → Except ε γ} {h : γ → β}
    (rest : ∀ a, x = .ok a → f a = (g a).map h) : (x >>= f) = (x >>= g).map h := by
  cases x with
  | error error => rfl
  | ok a => exact rest a rfl

/-- Two computations, the first step of one being that of the other with a change of its result. -/
theorem map_bind_eq_map_bind {x : Except ε α} {k : α → δ} {f : δ → Except ε β}
    {g : α → Except ε γ} {h : γ → β} (rest : ∀ a, x = .ok a → f (k a) = (g a).map h) :
    (x.map k >>= f) = (x >>= g).map h := by
  cases x with
  | error error => rfl
  | ok a => exact rest a rfl

namespace Resolver

theorem linked_of_planTable {r : Resolver} {location : Location} {relation : Relation}
    {spec : TableSpec} {plan : TablePlan}
    (planned : r.planTable location relation spec = .ok plan) :
    plan.head.linked = relation.linked spec.table := by
  rw [(planTable_parts planned).head]
  rfl

/-- The walk over a table is its plan followed by the building, wherever the table is met. -/
def WalksByPlan (r : Resolver) (fold : TableFold Site Frame Entry Output) (spec : TableSpec) :
    Prop :=
  ∀ location relation site, r.walkTable fold location relation site spec =
    (r.planTable location relation spec).map (fold.build site)

variable {r : Resolver} {fold : TableFold Site Frame Entry Output} {location : Location}
  {relation : Relation}

theorem walkInlined_eq_build {parents : List ParentTable}
    (walks : ∀ parent ∈ parents, r.WalksByPlan fold parent.spec) (frame : Frame) :
    r.walkInlined fold location relation parents frame =
      (r.planInlined location relation parents).map (fold.buildInlined · frame) := by
  -- Each inline parent leaves another frame to the next one.
  induction parents generalizing frame with
  | nil => rfl
  | cons parent parents ih =>
      obtain ⟨link, spec⟩ := parent
      have rest := ih fun parent member => walks parent (List.mem_cons_of_mem _ member)
      rw [walkInlined, planInlined]
      cases link.referenceName with
      | some name => exact rest frame
      | none =>
          refine bind_eq_map_bind fun target _ => bind_eq_map_bind fun matching _ => ?_
          dsimp only
          rw [walks ⟨link, spec⟩ List.mem_cons_self]
          refine map_bind_eq_map_bind fun plan planned => ?_
          rw [rest]
          refine map_bind_eq_map_bind fun others _ => ?_
          rw [← linked_of_planTable planned]
          rfl

theorem walkReferences_eq_build {parents : List ParentTable}
    (walks : ∀ parent ∈ parents, r.WalksByPlan fold parent.spec) (frame : Frame) :
    r.walkReferences fold location relation frame parents =
      (r.planReferences location relation parents).map (fold.buildReferences frame) := by
  induction parents with
  | nil => rfl
  | cons parent parents ih =>
      obtain ⟨link, spec⟩ := parent
      have rest := ih fun parent member => walks parent (List.mem_cons_of_mem _ member)
      rw [walkReferences, planReferences]
      cases link.referenceName with
      | none => exact rest
      | some name =>
          refine bind_eq_map_bind fun target _ => bind_eq_map_bind fun matching _ => ?_
          dsimp only
          rw [walks ⟨link, spec⟩ List.mem_cons_self]
          refine map_bind_eq_map_bind fun plan planned => ?_
          rw [rest]
          refine map_bind_eq_map_bind fun others _ => ?_
          rw [← linked_of_planTable planned]
          rfl

/-- The walk over children checks unwrapped ones by the display orders that it has collected, the
plan by its count of properties: here is where the two must agree. -/
theorem walkCollections_eq_build {size : Output → Nat} (lawful : fold.LiftsOneForOne size)
    {children : List ChildTable} (walks : ∀ child ∈ children, r.WalksByPlan fold child.spec)
    (frame : Frame) :
    r.walkCollections fold location relation frame children =
      (r.planCollections location relation children).map (fold.buildCollections frame) := by
  induction children with
  | nil => rfl
  | cons child children ih =>
      obtain ⟨link, spec⟩ := child
      have rest := ih fun child member => walks child (List.mem_cons_of_mem _ member)
      rw [walkCollections, planCollections]
      refine bind_eq_map_bind fun target _ => bind_eq_map_bind fun pairs _ => ?_
      dsimp only
      rw [walks ⟨link, spec⟩ List.mem_cons_self]
      refine map_bind_eq_map_bind fun plan planned => ?_
      rw [Walked.propertyCount, (TableFold.build_count lawful plan _).1]
      split
      · rfl
      · rw [rest]
        refine map_bind_eq_map_bind fun others _ => ?_
        rw [← linked_of_planTable planned]
        rfl

/-- **Walking is planning and building.** With a fold that lifts one for one, the walk over a
table fails just where its plan does, and gives what is built of the plan. -/
theorem walkTable_eq_build {size : Output → Nat} (lawful : fold.LiftsOneForOne size)
    (spec : TableSpec) : r.WalksByPlan fold spec := by
  induction spec using TableSpec.tree_induction with
  | step spec parentWalks childWalks =>
      intro location relation site
      obtain ⟨table, aliasName, fields, parents, children, condition, resultTypeName⟩ := spec
      -- Step by step, both computations fail together or go on with corresponding results.
      rw [walkTable, planTable]
      refine bind_eq_map_bind fun own _ => ?_
      dsimp only at parentWalks childWalks ⊢
      rw [walkInlined_eq_build parentWalks]
      refine map_bind_eq_map_bind fun inlined _ => ?_
      rw [walkReferences_eq_build parentWalks]
      refine map_bind_eq_map_bind fun references _ => ?_
      rw [walkCollections_eq_build lawful childWalks]
      refine map_bind_eq_map_bind fun collections _ => ?_
      -- The walk looks for entries, the plan counts properties.
      have count := (TableFold.build_count lawful ⟨⟨relation.id, relation.keyFields.map (·.name),
        table, aliasName, condition, resultTypeName, own⟩, inlined, references, collections⟩ site).1
      simp only [TableFold.build, List.length_map, length_inDisplayOrder] at count
      simp only [List.isEmpty_iff, ← List.length_eq_zero_iff, count]
      split
      · rfl
      · rfl

end Resolver

end Walks

/-! ### The statement fold -/

/-- An entry with its display order, as the walk keeps it. -/
def SelectEntry.ordered (entry : SelectEntry) : Option UInt32 × SelectEntry :=
  (entry.displayOrder, entry)

theorem statementFold_liftsOneForOne :
    statementFold.LiftsOneForOne (fun statement => statement.select.length) where
  size_finish _ _ _ := rfl
  length_inlineEntries frame link table parent := by
    simp [statementFold, liftedEntries]

theorem zip_displayOrder (entries : List SelectEntry) :
    (entries.map (·.displayOrder)).zip entries = entries.map SelectEntry.ordered := by
  induction entries with
  | nil => rfl
  | cons entry entries ih =>
      rw [List.map_cons, List.zip_cons_cons, ih, List.map_cons, SelectEntry.ordered]

/-- Lifted entries keep the display orders of the entries that they are lifted from. -/
theorem zip_liftedEntries (subqueryAlias written : String) (relation : RelationId)
    (parent : Statement) :
    (parent.select.map (·.displayOrder)).zip (liftedEntries subqueryAlias written relation parent) =
      (liftedEntries subqueryAlias written relation parent).map SelectEntry.ordered := by
  have kept : (liftedEntries subqueryAlias written relation parent).map (·.displayOrder) =
      parent.select.map (·.displayOrder) := by
    rw [liftedEntries, List.map_map]
    conv_rhs => rw [← List.zipIdx_map_fst 0 parent.select, List.map_map]
    rfl
  rw [← kept, zip_displayOrder]

/-- What the statement fold builds of a plan is the statement of the plan. -/
def TablePlan.BuildsStatement (plan : TablePlan) : Prop :=
  ∀ site, statementFold.build site plan =
    ⟨plan.statement site, (plan.statement site).select.map (·.displayOrder)⟩

theorem buildInlined_statementFold {parents : List InlinedParent}
    (builds : ∀ parent ∈ parents, parent.plan.BuildsStatement) (frame : StatementFrame)
    (idle : frame.pendingAlias = none) :
    statementFold.buildInlined parents frame =
      ({ frame with
          scope := (InlinedParent.joins frame.aliasName frame.scope parents).scope
          joined :=
            frame.joined ++ (InlinedParent.joins frame.aliasName frame.scope parents).sources },
        (InlinedParent.joins frame.aliasName frame.scope parents).entries.map
          SelectEntry.ordered) := by
  induction parents generalizing frame with
  | nil => simp [TableFold.buildInlined, InlinedParent.joins]
  | cons parent parents ih =>
      obtain ⟨link, plan⟩ := parent
      have rest := ih fun parent member => builds parent (List.mem_cons_of_mem _ member)
      rw [TableFold.buildInlined, builds ⟨link, plan⟩ List.mem_cons_self, rest _ rfl]
      simp [InlinedParent.joins, statementFold, zip_liftedEntries, idle]

theorem buildReferences_statementFold {references : List Reference}
    (builds : ∀ parent ∈ references, parent.plan.BuildsStatement) (frame : StatementFrame) :
    statementFold.buildReferences frame references =
      (Reference.entries frame.aliasName frame.scope references).map SelectEntry.ordered := by
  induction references with
  | nil => rfl
  | cons reference references ih =>
      obtain ⟨link, plan⟩ := reference
      have rest := ih fun parent member => builds parent (List.mem_cons_of_mem _ member)
      rw [TableFold.buildReferences, builds ⟨link, plan⟩ List.mem_cons_self, rest]
      rfl

theorem buildCollections_statementFold {collections : List Collection}
    (builds : ∀ child ∈ collections, child.plan.BuildsStatement) (frame : StatementFrame) :
    statementFold.buildCollections frame collections =
      (Collection.entries frame.aliasName frame.scope collections).map SelectEntry.ordered := by
  induction collections with
  | nil => rfl
  | cons collection collections ih =>
      obtain ⟨link, plan⟩ := collection
      have rest := ih fun child member => builds child (List.mem_cons_of_mem _ member)
      rw [TableFold.buildCollections, builds ⟨link, plan⟩ List.mem_cons_self, rest]
      rfl

@[simp] theorem PlannedField.entry_displayOrder (aliasName : String) (field : PlannedField) :
    (field.entry aliasName).displayOrder = field.displayOrder := by
  rw [PlannedField.entry]
  cases field.source with
  | field stored => rfl
  | expression sql placeholder => rfl

theorem build_statementFold (plan : TablePlan) : plan.BuildsStatement := by
  induction plan using TablePlan.tree_induction with
  | step plan inlinedBuilds referenceBuilds collectionBuilds =>
      intro site
      obtain ⟨head, inlined, references, collections⟩ := plan
      dsimp only at inlinedBuilds referenceBuilds collectionBuilds
      have own : head.fields.map (fun field => (field.displayOrder,
          statementFold.fieldEntry (statementFold.start head site) field)) =
          (head.fields.map (·.entry (head.aliasIn site.scope))).map SelectEntry.ordered := by
        rw [List.map_map]
        refine List.map_congr_left fun field _ => ?_
        rw [Function.comp_apply, SelectEntry.ordered, PlannedField.entry_displayOrder]
        rfl
      rw [TableFold.build, TablePlan.statement, buildInlined_statementFold inlinedBuilds _ rfl,
        buildReferences_statementFold referenceBuilds,
        buildCollections_statementFold collectionBuilds, own]
      dsimp only
      -- The walk sorts pairs, the plan sorts entries by their own display orders.
      have unordered : Prod.snd ∘ SelectEntry.ordered = id := rfl
      rw [← List.map_append, ← List.map_append, ← List.map_append, inDisplayOrder_map,
        List.map_map, List.map_map, unordered, List.map_id]
      rfl

/-- The walk that makes statements, at any table of a specification. -/
theorem Resolver.walkTable_statementFold (r : Resolver) (location : Location)
    (relation : Relation) (site : Site) (spec : TableSpec) :
    r.walkTable statementFold location relation site spec =
      (r.planTable location relation spec).map fun plan =>
        ⟨plan.statement site, (plan.statement site).select.map (·.displayOrder)⟩ := by
  rw [walkTable_eq_build statementFold_liftsOneForOne]
  exact congrArg (Except.map · _) (funext fun plan => build_statementFold plan site)

/-- **The walk of statements in closed form.** -/
theorem Resolver.walk_statementFold (r : Resolver) (location : Location) (site : Site)
    (spec : TableSpec) :
    r.walk statementFold location site spec = (r.plan location spec).map fun plan =>
      ⟨plan.statement site, (plan.statement site).select.map (·.displayOrder)⟩ :=
  bind_eq_map_bind fun relation _ => r.walkTable_statementFold location relation site spec

/-! ### The result type fold -/

theorem resultTypeFold_liftsOneForOne (query : String) :
    (resultTypeFold query).LiftsOneForOne (fun type => type.properties.length) where
  size_finish _ _ _ := rfl
  length_inlineEntries _ _ _ _ := List.length_map ..

section

variable {query : String}

/-- What the result type fold builds of a plan is the result type of the plan. -/
def TablePlan.BuildsResultType (query : String) (plan : TablePlan) : Prop :=
  (resultTypeFold query).build () plan =
    ⟨plan.resultType query, (plan.properties query).map Prod.fst⟩

theorem buildInlined_resultTypeFold {parents : List InlinedParent}
    (builds : ∀ parent ∈ parents, parent.plan.BuildsResultType query) :
    (resultTypeFold query).buildInlined parents () =
      ((), InlinedParent.properties query parents) := by
  induction parents with
  | nil => rfl
  | cons parent parents ih =>
      obtain ⟨link, plan⟩ := parent
      have rest := ih fun parent member => builds parent (List.mem_cons_of_mem _ member)
      have lifted : ((plan.properties query).map Prod.fst).zip
          (((plan.properties query).map Prod.snd).map link.matching.lift) =
            (plan.properties query).map fun property =>
              (property.1, link.matching.lift property.2) := by
        rw [List.map_map, List.zip_map']
        rfl
      rw [TableFold.buildInlined, builds ⟨link, plan⟩ List.mem_cons_self,
        InlinedParent.properties, ← lifted]
      exact congrArg (fun others => ((), _ ++ others.2)) rest

theorem buildReferences_resultTypeFold {references : List Reference}
    (builds : ∀ parent ∈ references, parent.plan.BuildsResultType query) :
    (resultTypeFold query).buildReferences () references =
      Reference.properties query references := by
  induction references with
  | nil => rfl
  | cons reference references ih =>
      obtain ⟨link, plan⟩ := reference
      have rest := ih fun parent member => builds parent (List.mem_cons_of_mem _ member)
      rw [TableFold.buildReferences, builds ⟨link, plan⟩ List.mem_cons_self, rest]
      rfl

theorem buildCollections_resultTypeFold {collections : List Collection}
    (builds : ∀ child ∈ collections, child.plan.BuildsResultType query) :
    (resultTypeFold query).buildCollections () collections =
      Collection.properties query collections := by
  induction collections with
  | nil => rfl
  | cons collection collections ih =>
      obtain ⟨link, plan⟩ := collection
      have rest := ih fun child member => builds child (List.mem_cons_of_mem _ member)
      rw [TableFold.buildCollections, builds ⟨link, plan⟩ List.mem_cons_self, rest]
      rfl

theorem build_resultTypeFold (plan : TablePlan) : plan.BuildsResultType query := by
  induction plan using TablePlan.tree_induction with
  | step plan inlinedBuilds referenceBuilds collectionBuilds =>
      obtain ⟨head, inlined, references, collections⟩ := plan
      dsimp only at inlinedBuilds referenceBuilds collectionBuilds
      have lifted := buildInlined_resultTypeFold inlinedBuilds
      unfold TablePlan.BuildsResultType
      rw [TableFold.build, TablePlan.resultType, TablePlan.properties]
      rw [show (resultTypeFold query).start head () = () from rfl, lifted,
        buildReferences_resultTypeFold referenceBuilds,
        buildCollections_resultTypeFold collectionBuilds]
      rfl

end

/-- The walk that makes result types, at any table of a specification. -/
theorem Resolver.walkTable_resultTypeFold (r : Resolver) (query : String) (location : Location)
    (relation : Relation) (spec : TableSpec) :
    r.walkTable (resultTypeFold query) location relation () spec =
      (r.planTable location relation spec).map fun plan =>
        ⟨plan.resultType query, (plan.properties query).map Prod.fst⟩ := by
  rw [walkTable_eq_build (resultTypeFold_liftsOneForOne query)]
  exact congrArg (Except.map · _) (funext fun plan => build_resultTypeFold plan)

/-- **The walk of result types in closed form.** -/
theorem Resolver.walk_resultTypeFold (r : Resolver) (query : String) (location : Location)
    (spec : TableSpec) :
    r.walk (resultTypeFold query) location () spec = (r.plan location spec).map fun plan =>
      ⟨plan.resultType query, (plan.properties query).map Prod.fst⟩ :=
  bind_eq_map_bind fun relation _ => r.walkTable_resultTypeFold query location relation spec

/-! ### Numbers of properties -/

namespace TablePlan

/-- The statement of a plan has as many entries as the plan is counted to have properties. -/
theorem length_select_statement (plan : TablePlan) (site : Site) :
    (plan.statement site).select.length = plan.propertyCount := by
  have counted := (TableFold.build_count statementFold_liftsOneForOne plan site).2
  rwa [build_statementFold plan site] at counted

/-- So has its type. -/
theorem length_resultType (query : String) (plan : TablePlan) :
    (plan.resultType query).properties.length = plan.propertyCount := by
  have counted := (TableFold.build_count (resultTypeFold_liftsOneForOne query) plan ()).2
  rwa [build_resultTypeFold plan] at counted

end TablePlan

/-! ### Statements and types of queries -/

/-- Two statements differ at most in how their rows are returned: locked or not, as columns, objects
or one array, with more columns, or under another comment. -/
structure Statement.SameRows (statement other : Statement) : Prop where
  select : statement.select = other.select
  hidden : statement.hidden = other.hidden
  sources : statement.sources = other.sources
  conditions : statement.conditions = other.conditions
  orderBy : statement.orderBy = other.orderBy
  resultTypeName : statement.resultTypeName = other.resultTypeName

theorem Statement.SameRows.refl (statement : Statement) : statement.SameRows statement :=
  ⟨rfl, rfl, rfl, rfl, rfl, rfl⟩

/-- A representation is a way to return the rows. -/
theorem Query.represent_sameRows (query : Query) (statement : Statement)
    (representation : Representation) :
    (query.represent statement representation).SameRows statement := by
  cases representation with
  | multiColumnRows => exact ⟨rfl, rfl, rfl, rfl, rfl, rfl⟩
  | jsonObjectRows => exact ⟨rfl, rfl, rfl, rfl, rfl, rfl⟩
  | jsonArrayRow => exact ⟨rfl, rfl, rfl, rfl, rfl, rfl⟩

/-- The statement of a query in one representation, from its plan. -/
theorem Query.statement_eq_plan (r : Resolver) (query : Query) (representation : Representation)
    (allowed : (query.locksRows && representation != .multiColumnRows) = false) :
    query.statement r representation =
      (r.plan (Location.root query.name) query.table).map fun plan =>
        query.represent (plan.statement { orderBy := query.orderBy }) representation := by
  simp only [Query.statement, allowed, Bool.false_eq_true, if_false, r.walk_statementFold]
  cases r.plan (Location.root query.name) query.table with
  | error error => rfl
  | ok plan => rfl

/-- The result types of a specification, from its plan. -/
theorem TableSpec.resultTypes_eq_plan (r : Resolver) (query : String) (spec : TableSpec) :
    spec.resultTypes r query = (r.plan (Location.root query) spec).map fun plan =>
      plan.resultType query :: (plan.resultType query).declared := by
  rw [TableSpec.resultTypes, r.walk_resultTypeFold]
  cases r.plan (Location.root query) spec with
  | error error => rfl
  | ok plan => rfl

end NestedQuery
