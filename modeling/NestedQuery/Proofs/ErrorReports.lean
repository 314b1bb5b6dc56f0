import NestedQuery.Proofs.Checks
import NestedQuery.Spec.Pharmacy

/-!
# What an error tells

A specification is refused with one fault and the place where it was found. This is the first fault
in the list of its checks, and the location is the path to the table of that check. The steps of the
resolution are shown to make their checks one by one, in the order of the list, and to stop at the
first one that does not pass.

## Main Definitions

* `Resolver.FirstFault`: the first fault among some checks
* `Resolver.Reports`: a computation that makes some checks

## Main Results

* `Resolver.Reports.bind`: checks that are made one after the other
* `Resolver.reports_planTable`: the plan of a table makes the checks of the table
* `Resolver.Reports.eq_error_iff`: just the first fault is reported
* `error_reports_are_truthful`: the errors of the walks that make statements and result types
* `diagonal_key_is_reported_missing`: a foreign key that is there and is reported missing
-/

namespace NestedQuery

namespace Resolver

section Definitions

variable (r : Resolver) (keys : KeyChoice)

/-- The error for the first fault among some checks, with the given choice of keys: all checks
before pass, and the error has the fault and the path to it. -/
def FirstFault (query : String) (checks : List Check) (error : SpecError) : Prop :=
  ∃ before check after, checks = before ++ check :: after ∧
    (∀ earlier ∈ before, r.Passes keys earlier) ∧ r.Faulty keys check error.fault ∧
    error.location = ⟨query, check.place.path ++ check.extension error.fault⟩

/-- A computation makes some checks, with the keys that the resolution chooses: it succeeds only if
all of them pass, and it fails with the first fault. -/
structure Reports (query : String) (checks : List Check) (result : Except SpecError α) : Prop where
  passed : ∀ value, result = .ok value → ∀ check ∈ checks, r.Passes r.keys check
  failed : ∀ error, result = .error error → r.FirstFault r.keys query checks error

end Definitions

/-! ### Making checks -/

variable {r : Resolver} {query : String} {checks more : List Check} {check : Check}

theorem firstFault_single {error : SpecError} (faulty : r.Faulty r.keys check error.fault)
    (location : error.location = ⟨query, check.place.path ++ check.extension error.fault⟩) :
    r.FirstFault r.keys query [check] error :=
  ⟨[], check, [], rfl, by simp, faulty, location⟩

theorem FirstFault.append_right {error : SpecError} (first : r.FirstFault r.keys query checks error)
    (more : List Check) : r.FirstFault r.keys query (checks ++ more) error := by
  obtain ⟨before, check, after, rfl, passed, found⟩ := first
  exact ⟨before, check, after ++ more, by simp, passed, found⟩

theorem FirstFault.append_left {error : SpecError} (first : r.FirstFault r.keys query more error)
    (passed : ∀ check ∈ checks, r.Passes r.keys check) :
    r.FirstFault r.keys query (checks ++ more) error := by
  obtain ⟨before, check, after, rfl, later, found⟩ := first
  exact ⟨checks ++ before, check, after, by simp, List.forall_mem_append.mpr ⟨passed, later⟩, found⟩

theorem reports_ok (value : α) : r.Reports query [] (.ok value) :=
  ⟨fun _ _ _ member => (nomatch member), fun _ impossible => nomatch impossible⟩

/-- **Checks that are made one after the other.** -/
theorem Reports.bind {first : Except SpecError α} {next : α → Except SpecError β}
    (reports : r.Reports query checks first)
    (reportsNext : ∀ value, first = .ok value → r.Reports query more (next value)) :
    r.Reports query (checks ++ more) (first >>= next) := by
  constructor
  · intro result succeeded
    obtain ⟨value, done, rest⟩ := bind_eq_ok.mp succeeded
    exact List.forall_mem_append.mpr
      ⟨reports.passed value done, (reportsNext value done).passed result rest⟩
  · intro error failed
    rcases bind_eq_error.mp failed with here | ⟨value, done, later⟩
    · exact (reports.failed error here).append_right more
    · exact ((reportsNext value done).failed error later).append_left (reports.passed value done)

/-- A computation that makes no check after another one. -/
theorem Reports.map {first : Except SpecError α} (reports : r.Reports query checks first)
    (f : α → β) : r.Reports query checks (first >>= fun value => .ok (f value)) := by
  have both := reports.bind fun value _ => reports_ok (f value)
  rwa [List.append_nil] at both

/-- A check that fails with the given error or lets the computation go on. -/
theorem Reports.guard {refused : Prop} [Decidable refused] {error : SpecError}
    {rest : Except SpecError α} (fault : refused → r.FirstFault r.keys query [check] error)
    (passes : ¬ refused → r.Passes r.keys check) (reports : r.Reports query more rest) :
    r.Reports query (check :: more) (if refused then .error error else rest) := by
  by_cases refuse : refused
  · rw [if_pos refuse]
    refine ⟨fun _ impossible => (nomatch impossible), ?_⟩
    rintro _ ⟨⟩
    exact (fault refuse).append_right more
  · rw [if_neg refuse]
    refine ⟨fun value done => ?_, fun other failed => ?_⟩
    · exact List.forall_mem_cons.mpr ⟨passes refuse, reports.passed value done⟩
    · exact (reports.failed other failed).append_left
        (List.forall_mem_singleton.mpr (passes refuse))

theorem reports_mapM {f : α → Except SpecError β} {check : α → Check} {xs : List α}
    (each : ∀ x ∈ xs, r.Reports query [check x] (f x)) :
    r.Reports query (xs.map check) (xs.mapM f) := by
  induction xs with
  | nil => exact reports_ok []
  | cons x xs ih =>
      rw [List.mapM_cons, List.map_cons, ← List.singleton_append]
      have rest := ih fun y member => each y (List.mem_cons_of_mem _ member)
      exact (each x List.mem_cons_self).bind fun y _ => rest.map (y :: ·)

/-! ### Single checks -/

variable {place : Place} {relation : Relation}

theorem reports_table :
    r.Reports query [⟨place, .name⟩] (r.table ⟨query, place.path⟩ place.table.table) := by
  constructor
  · intro relation found
    have names := relation?_eq_some.mp (table_eq_ok.mp found)
    exact List.forall_mem_singleton.mpr (.name names)
  · intro error failed
    rw [table] at failed
    split at failed
    · cases failed
    · rename_i unknown
      cases failed
      refine firstFault_single (.name fun relation names => ?_) (by simp [Check.extension])
      rw [relation?_eq_some.mpr names] at unknown
      cases unknown

theorem reports_fieldEntries (names : r.Names place.table.table relation) :
    r.Reports query (place.table.fields.zipIdx.map fun entry => ⟨place, .field entry.2⟩)
      (r.fieldEntries ⟨query, place.path⟩ place.table.table relation place.table.fields) := by
  refine reports_mapM fun ⟨entry, position⟩ member => ?_
  have entryAt : place.table.fields[position]? = some entry :=
    List.mem_zipIdx_iff_getElem?.mp member
  constructor
  · intro field resolved
    have valid := succeeds_fieldEntry.mp ⟨field, resolved⟩
    exact List.forall_mem_singleton.mpr (.field entryAt names valid)
  · intro error failed
    obtain ⟨found, faulty⟩ := fieldEntry_eq_error failed
    exact firstFault_single (.field entryAt names faulty) found

theorem reports_linkPairs {child parent : Relation} {around : TableSpec} {attachment : Attachment}
    (attached : place.attached = some (around, attachment))
    (ends : r.Ends around place.table attachment child parent) :
    r.Reports query [⟨place, .link⟩] (r.linkPairs ⟨query, place.path⟩ child parent
      attachment.customMatch attachment.foreignKeyFields) := by
  constructor
  · intro pairs linked
    have valid := succeeds_linkPairs.mp ⟨pairs, linked⟩
    exact List.forall_mem_singleton.mpr (.link attached ends valid)
  · intro error failed
    -- Only the faults of a custom match have a location of their own.
    suffices found : r.FaultyLink r.keys child parent attachment.customMatch
        attachment.foreignKeyFields error.fault ∧
        error.location = ⟨query, place.path ++ Check.extension ⟨place, .link⟩ error.fault⟩ from
      firstFault_single (.link attached ends found.1) found.2
    cases custom : attachment.customMatch with
    | none =>
        rw [custom] at failed
        obtain ⟨faulty, here⟩ := foreignKeyPairs_eq_error failed
        refine ⟨faulty, here.trans ?_⟩
        obtain ⟨location, fault⟩ := error
        cases faulty with
        | missing => simp [Check.extension]
        | ambiguous => simp [Check.extension]
    | some given =>
        cases fields : attachment.foreignKeyFields with
        | none =>
            rw [custom, fields] at failed
            obtain ⟨faulty, location, fault, isCustom⟩ := customPairs_eq_error failed
            refine ⟨faulty, ?_⟩
            rw [location, isCustom]
            rfl
        | some names =>
            rw [custom, fields] at failed
            cases failed
            exact ⟨.overspecified, by simp [Check.extension]⟩

/-! ### Tables -/

/-- The plan of a table, at any place, makes the checks of this place. -/
def ReportsTable (r : Resolver) (query : String) (spec : TableSpec) : Prop :=
  ∀ (place : Place) relation, place.table = spec → r.Names spec.table relation →
    r.Reports query place.checks (r.planTable ⟨query, place.path⟩ relation spec)

/-- One parent and what comes after it. Inline and referenced parents differ only in what is made of
them. -/
theorem reports_parent_step {parent : ParentTable} (names : r.Names place.table.table relation)
    (reports : r.ReportsTable query parent.spec) {here : Place}
    (below : here = place.below (.parent parent.link) parent.spec) {others : Except SpecError β}
    (reportsOthers : r.Reports query more others) {finish : RowMatch → TablePlan → β → γ} :
    r.Reports query (⟨here, .name⟩ :: ⟨here, .link⟩ :: (here.checks ++ more)) (do
      let target ← r.table ⟨query, here.path⟩ parent.spec.table
      let matching ← r.parentMatch ⟨query, here.path⟩ relation target parent.link
        parent.spec.condition.isSome
      let plan ← r.planTable ⟨query, here.path⟩ target parent.spec
      let rest ← others
      return finish matching plan rest) := by
  have table : here.table = parent.spec := by rw [below, Place.below]
  have attached : here.attached = some (place.table, .parent parent.link) := by
    rw [below, Place.below]
  show r.Reports query ([⟨here, .name⟩] ++ ([⟨here, .link⟩] ++ (here.checks ++ more))) _
  rw [← table]
  refine reports_table.bind fun target found => ?_
  have namesTarget := relation?_eq_some.mp (table_eq_ok.mp found)
  have link : r.Reports query [⟨here, .link⟩] (r.parentMatch ⟨query, here.path⟩ relation target
      parent.link here.table.condition.isSome) :=
    (reports_linkPairs attached ⟨names, namesTarget⟩).map _
  refine link.bind fun matching _ => ?_
  rw [table] at namesTarget ⊢
  exact (reports here target table namesTarget).bind fun plan _ => reportsOthers.map _

theorem reports_planInlined (names : r.Names place.table.table relation)
    {parents : List ParentTable} (reports : ∀ parent ∈ parents, r.ReportsTable query parent.spec) :
    r.Reports query (ParentTable.checksBelow place true parents)
      (r.planInlined ⟨query, place.path⟩ relation parents) := by
  induction parents with
  | nil => exact reports_ok []
  | cons parent parents ih =>
      have rest := ih fun other member => reports other (List.mem_cons_of_mem _ member)
      have step := reports parent List.mem_cons_self
      obtain ⟨link, spec⟩ := parent
      rw [planInlined, ParentTable.checksBelow]
      cases named : link.referenceName with
      | some name => exact rest
      | none =>
          have below : (⟨place.path ++ [inlineParentPart spec.table], spec,
              some (place.table, .parent link)⟩ : Place) = place.below (.parent link) spec := by
            simp [Place.below, Attachment.part, named]
          dsimp only
          rw [if_pos Option.isNone_none, ← below]
          exact reports_parent_step names step below rest

theorem reports_planReferences (names : r.Names place.table.table relation)
    {parents : List ParentTable} (reports : ∀ parent ∈ parents, r.ReportsTable query parent.spec) :
    r.Reports query (ParentTable.checksBelow place false parents)
      (r.planReferences ⟨query, place.path⟩ relation parents) := by
  induction parents with
  | nil => exact reports_ok []
  | cons parent parents ih =>
      have rest := ih fun other member => reports other (List.mem_cons_of_mem _ member)
      have step := reports parent List.mem_cons_self
      obtain ⟨link, spec⟩ := parent
      rw [planReferences, ParentTable.checksBelow]
      cases named : link.referenceName with
      | none => exact rest
      | some name =>
          have below : (⟨place.path ++ [referencePart spec.table name], spec,
              some (place.table, .parent link)⟩ : Place) = place.below (.parent link) spec := by
            simp [Place.below, Attachment.part, named]
          dsimp only
          rw [if_pos Option.isNone_some, ← below]
          exact reports_parent_step names step below rest

theorem reports_planCollections (names : r.Names place.table.table relation)
    {children : List ChildTable} (reports : ∀ child ∈ children, r.ReportsTable query child.spec) :
    r.Reports query (ChildTable.checksBelow place children)
      (r.planCollections ⟨query, place.path⟩ relation children) := by
  induction children with
  | nil => exact reports_ok []
  | cons child children ih =>
      have rest := ih fun other member => reports other (List.mem_cons_of_mem _ member)
      have step := reports child List.mem_cons_self
      obtain ⟨link, spec⟩ := child
      rw [planCollections, ChildTable.checksBelow]
      generalize below : place.below (.child link) spec = here
      have table : here.table = spec := by rw [← below, Place.below]
      have attached : here.attached = some (place.table, .child link) := by
        rw [← below, Place.below]
      have path : (⟨query, place.path⟩ : Location).enter
          (collectionPart spec.table link.collectionName) = ⟨query, here.path⟩ := by
        rw [← below]
        rfl
      have own : spec.checksAt here.path here.attached = here.checks := by
        rw [Place.checks, table]
      rw [path, own]
      show r.Reports query ([⟨here, .name⟩] ++ ([⟨here, .link⟩] ++ (here.checks ++
        ⟨here, .bareValues⟩ :: ChildTable.checksBelow place children))) _
      rw [← table] at step ⊢
      refine reports_table.bind fun target found => ?_
      have namesTarget := relation?_eq_some.mp (table_eq_ok.mp found)
      refine (reports_linkPairs attached ⟨namesTarget, names⟩).bind fun pairs _ => ?_
      refine (step here target rfl namesTarget).bind fun plan planned => ?_
      -- The properties of the plan are as many as are counted in the specification.
      rw [r.propertyCount_of_planTable here.table _ target plan planned]
      refine Reports.guard ?_ ?_ (rest.map _)
      · intro refused
        rw [Bool.and_eq_true, bne_iff_ne] at refused
        exact firstFault_single (.bareValues attached refused.1 refused.2)
          (by simp [Check.extension])
      · intro allowed
        refine .bareValues attached fun unwraps => ?_
        have unwrapped : link.unwraps = true := unwraps
        simpa [unwrapped] using allowed

/-- **The plan of a table makes the checks of the table.** -/
theorem reports_planTable (r : Resolver) (query : String) (spec : TableSpec) :
    r.ReportsTable query spec := by
  induction spec using TableSpec.tree_induction with
  | step spec parentReports childReports =>
      rintro place relation rfl names
      have own := @reports_fieldEntries r query place relation names
      have inlinedReports := reports_planInlined names parentReports
      have referenceReports := reports_planReferences names parentReports
      have collectionReports := reports_planCollections names childReports
      have counts := @count_of_parts r ⟨query, place.path⟩ relation place.table
      rw [place.checks_eq]
      obtain ⟨path, ⟨table, aliasName, fields, parents, children, condition, typeName⟩, attached⟩ :=
        place
      rw [planTable]
      refine own.bind fun fields fieldsPlanned => ?_
      refine inlinedReports.bind fun inlined inlinedPlanned => ?_
      refine referenceReports.bind fun references referencesPlanned => ?_
      refine collectionReports.bind fun collections collectionsPlanned => ?_
      have count := counts (fun parent _ => r.propertyCount_of_planTable parent.spec)
        fieldsPlanned inlinedPlanned referencesPlanned collectionsPlanned
      refine Reports.guard ?_ ?_ (reports_ok _)
      · intro empty
        exact firstFault_single (.properties (count.symm.trans empty)) (by simp [Check.extension])
      · intro nonempty
        exact .properties fun empty => nonempty (count.trans empty)

/-! ### The first fault -/

/-- The first element of a list without some property is the only one before which all have it. -/
theorem first_unique {p : α → Prop} {before after before' after' : List α} {x y : α}
    (same : before ++ x :: after = before' ++ y :: after') (all : ∀ z ∈ before, p z) (lacks : ¬ p x)
    (all' : ∀ z ∈ before', p z) (lacks' : ¬ p y) : x = y := by
  induction before generalizing before' with
  | nil =>
      cases before' with
      | nil => exact (List.cons.inj same).1
      | cons z before' =>
          obtain ⟨rfl, -⟩ := List.cons.inj same
          exact absurd (all' x List.mem_cons_self) lacks
  | cons z before ih =>
      cases before' with
      | nil =>
          obtain ⟨rfl, -⟩ := List.cons.inj same
          exact absurd (all z List.mem_cons_self) lacks'
      | cons z' before' =>
          exact ih (List.cons.inj same).2 (fun w member => all w (List.mem_cons_of_mem _ member))
            fun w member => all' w (List.mem_cons_of_mem _ member)

theorem FirstFault.unique {error other : SpecError} (first : r.FirstFault r.keys query checks error)
    (firstOther : r.FirstFault r.keys query checks other) : error = other := by
  obtain ⟨before, check, after, rfl, passed, faulty, location⟩ := first
  obtain ⟨before', check', after', same, passed', faulty', location'⟩ := firstOther
  obtain rfl := first_unique same passed faulty.not_passes passed' faulty'.not_passes
  obtain ⟨_, fault⟩ := error
  obtain ⟨_, fault'⟩ := other
  obtain rfl := faulty.unique faulty'
  rw [SpecError.mk.injEq]
  exact ⟨location.trans location'.symm, rfl⟩

/-- Just the first fault is reported. -/
theorem Reports.eq_error_iff {result : Except SpecError α} (reports : r.Reports query checks result)
    {error : SpecError} : result = .error error ↔ r.FirstFault r.keys query checks error := by
  refine ⟨reports.failed error, fun first => ?_⟩
  cases done : result with
  | error other => rw [first.unique (reports.failed other done)]
  | ok value =>
      obtain ⟨before, check, after, rfl, -, faulty, -⟩ := first
      exact absurd (reports.passed value done check (by simp)) faulty.not_passes

/-- The first fault of a specification depends on the keys for its links only. -/
theorem FirstFault.congr {root : TableSpec} {keys others : KeyChoice} {error : SpecError}
    (agree : r.Agree root keys others) (first : r.FirstFault keys query root.checks error) :
    r.FirstFault others query root.checks error := by
  obtain ⟨before, check, after, split, passed, faulty, location⟩ := first
  have placed : ∀ {other}, other ∈ before ++ check :: after → root.HasPlace other.place :=
    fun member => TableSpec.hasPlace_of_mem_checks (split ▸ member)
  refine ⟨before, check, after, split, fun earlier member => ?_, ?_, location⟩
  · exact (passed earlier member).congr agree (placed (List.mem_append_left _ member))
  · exact faulty.congr agree (placed (List.mem_append_right _ List.mem_cons_self))

/-- **The plan of a specification makes its checks.** -/
theorem reports_plan (r : Resolver) (query : String) (spec : TableSpec) :
    r.Reports query spec.checks (r.plan (Location.root query) spec) := by
  refine (@reports_table r query spec.place).bind fun relation found => ?_
  exact r.reports_planTable query spec spec.place relation rfl
    (relation?_eq_some.mp (table_eq_ok.mp found))

end Resolver

/-! ### Errors of the walks -/

theorem map_eq_error {x : Except ε α} {f : α → β} {error : ε} :
    x.map f = .error error ↔ x = .error error := by
  cases x with
  | error other => simp [Except.map]
  | ok a => simp [Except.map]

/-- **Error reports are truthful.** If no foreign key between linked relations repeats a child
field, the walk that makes statements and the walk that makes result types are refused with
the first fault of the specification, in the order of its checks, and with no other one. Then
all checks before pass, the fault is really found by the check, this is made at a table of the
specification, and the location has the name of the query and as its part the path to the
table: nothing for the table of the whole specification, else the joined descriptions, with
the entry of the field list or the custom match at the end if the fault is there. -/
theorem error_reports_are_truthful (r : Resolver) (query : String) (spec : TableSpec)
    (error : SpecError) (distinct : r.FieldsDistinct spec) :
    (∀ site, r.walk statementFold (Location.root query) site spec = .error error ↔
      r.FirstFault r.database.keysOfFieldSet query spec.checks error) ∧
    (r.walk (resultTypeFold query) (Location.root query) () spec = .error error ↔
      r.FirstFault r.database.keysOfFieldSet query spec.checks error) ∧
    (r.FirstFault r.database.keysOfFieldSet query spec.checks error → ∃ before check after,
      spec.checks = before ++ check :: after ∧
      (∀ earlier ∈ before, r.Passes r.database.keysOfFieldSet earlier) ∧
      spec.HasPlace check.place ∧ r.Faulty r.database.keysOfFieldSet check error.fault ∧
      error.location.query = query ∧
      error.location.part? =
        match check.place.path ++ check.extension error.fault with
        | [] => none
        | parts => some (Text.joinWith " / " parts)) := by
  have reported : r.plan (Location.root query) spec = .error error ↔
      r.FirstFault r.database.keysOfFieldSet query spec.checks error :=
    (r.reports_plan query spec).eq_error_iff.trans
      ⟨.congr distinct.agree, .congr distinct.agree.symm⟩
  refine ⟨fun site => ?_, ?_, ?_⟩
  · rw [r.walk_statementFold, map_eq_error]
    exact reported
  · rw [r.walk_resultTypeFold, map_eq_error]
    exact reported
  · rintro ⟨before, check, after, split, passed, faulty, location⟩
    have placed : spec.HasPlace check.place :=
      TableSpec.hasPlace_of_mem_checks (by rw [split]; simp)
    refine ⟨before, check, after, split, passed, placed, faulty, by rw [location], ?_⟩
    rw [location, Location.part?]
    cases check.place.path ++ check.extension error.fault with
    | nil => rfl
    | cons first rest => rfl

/-- Drugs with the analysts who approved their compounds, of whom a field is misspelled. -/
def Pharmacy.misspelled : TableSpec :=
  ⟨"drug", none, [.named "name"],
    [inlineParent none ⟨"compound", none, [],
      [inlineParent (some ["approved_by"])
        ⟨"analyst", none, [.named "id", .named "shortname"], [], [], none, none⟩], [], none, none⟩],
    [], none, none⟩

/-- The misspelled field is found as the second one of the analysts. -/
theorem misspelled_field_is_reported :
    Pharmacy.resolver.FirstFault Pharmacy.lowerCase.keysOfFieldSet "drugs"
      Pharmacy.misspelled.checks
      ⟨⟨"drugs", ["parent table 'compound'", "parent table 'analyst'",
        "fieldExpressions entry #2 of table 'analyst'"]⟩,
        .fieldNotFound ⟨some "drugs", "analyst"⟩ "shortname"⟩ := by
  refine (error_reports_are_truthful Pharmacy.resolver "drugs" Pharmacy.misspelled _
    (Pharmacy.fieldsDistinct _)).2.1.mp ?_
  decide +kernel

/-- With a single key for the link, a misspelled field of the cells is the first fault. -/
theorem Diagonal.firstFault_labels {keys : KeyChoice} {fields : List String} {cellField : String}
    (single : (keys diagonal cell (some fields)).length = 1)
    (unknown : ¬ resolver.HasField cells cellField) :
    resolver.FirstFault keys "labels" (labels fields cellField).checks
      ⟨⟨"labels", ["parent table 'cell'", "fieldExpressions entry #1 of table 'cell'"]⟩,
        .fieldNotFound cell cellField⟩ := by
  have label : resolver.HasField diagonals "label" := Resolver.isSome_field?.mp (by decide +kernel)
  let here : Place := (labels fields cellField).place
  let below : Place := here.below (.parent (cellLink fields))
    ⟨"cell", none, [.named cellField], [], [], none, none⟩
  refine ⟨[⟨here, .name⟩, ⟨here, .field 0⟩, ⟨below, .name⟩, ⟨below, .link⟩], ⟨below, .field 0⟩,
    [⟨below, .properties⟩, ⟨here, .properties⟩], rfl, ?_, ?_, rfl⟩
  · simp only [List.forall_mem_cons, List.not_mem_nil, false_implies, implies_true, and_true]
    exact ⟨.name names_diagonal, .field rfl names_diagonal label, .name names_cell,
      .link rfl ⟨names_diagonal, names_cell⟩ (.inr ⟨rfl, single⟩)⟩
  · exact .field rfl names_cell (.unknownName unknown)

/-- **A report that is not true.** It says that the diagonal has no foreign key to the cells by its
own field. What is wrong is a misspelled field of the cells. -/
theorem diagonal_key_is_reported_missing :
    Diagonal.resolver.walk (resultTypeFold "labels") (Location.root "labels") ()
        (Diagonal.labels ["number"] "rank") =
      .error ⟨⟨"labels", ["parent table 'cell'"]⟩,
        .foreignKeyNotFound Diagonal.diagonal Diagonal.cell (some ["number"])⟩ ∧
    ¬ Diagonal.resolver.FirstFault Diagonal.database.keysOfFieldSet "labels"
      (Diagonal.labels ["number"] "rank").checks
      ⟨⟨"labels", ["parent table 'cell'"]⟩,
        .foreignKeyNotFound Diagonal.diagonal Diagonal.cell (some ["number"])⟩ ∧
    Diagonal.resolver.FirstFault Diagonal.database.keysOfFieldSet "labels"
      (Diagonal.labels ["number"] "rank").checks
      ⟨⟨"labels", ["parent table 'cell'", "fieldExpressions entry #1 of table 'cell'"]⟩,
        .fieldNotFound Diagonal.cell "rank"⟩ := by
  have single : (Diagonal.database.keysOfFieldSet Diagonal.diagonal Diagonal.cell
      (some ["number"])).length = 1 := by
    decide +kernel
  refine ⟨by decide +kernel, ?_, Diagonal.firstFault_labels single fun has => ?_⟩
  · rintro ⟨_, _, _, -, -, faulty, -⟩
    rw [faulty.nothing] at single
    cases single
  · exact absurd (Resolver.isSome_field?.mpr has) (by decide +kernel)

end NestedQuery
