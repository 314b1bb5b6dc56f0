import NestedQuery.Proofs.PropertyOrigins
import NestedQuery.Spec.Pharmacy

/-!
# The order of entries at every table

A walk gathers the entries of a table from four places: its own field list, its inline parents, its
referenced parents and its children. Then it sorts them once. The entries of an inline parent have
been sorted before, by the display orders and the positions that they have in the parent; in the
table they are gathered in that order and sorted anew, with the same display orders but other
positions. Here this is said of any walk, and then of the two that there are.

## Main Definitions

* `EntryForms`: which entries a generator makes, of what
* `WalkOrder`: the entries of a table as they are gathered
* `Arranged`: what was made of a table has the gathered entries in display order

## Main Results

* `Resolver.arranged_of_walkTable`: walks arrange the entries of every table
* `display_order_is_stable_and_lossless`: the statements and the types of a query
-/

namespace NestedQuery

/-! ### What the entries of a table are for -/

/-- Which entries a generator makes: of a field, of an entry of an inline parent, of a referenced
parent and of a child. -/
structure EntryForms (Entry Output : Type) where
  /-- The entries of what is made of a table. -/
  entries : Output → List Entry
  own : PlannedField → Entry → Prop
  lifted : InlineLink → Entry → Entry → Prop
  reference : ReferenceLink → Output → Entry → Prop
  collection : CollectionLink → Output → Entry → Prop

/-- The entries of what was made of a table, each with its display order. -/
def Walked.entries (forms : EntryForms Entry Output) (walked : Walked Output) :
    List (Option UInt32 × Entry) :=
  walked.displayOrders.zip (forms.entries walked.output)

section Gathering

variable {Site Frame Entry Output : Type} (r : Resolver) (fold : TableFold Site Frame Entry Output)
  (forms : EntryForms Entry Output) (relation : Relation)

/-- The entry for an entry of the field list goes by the display order given there. -/
inductive OwnOf : FieldEntry → Option UInt32 × Entry → Prop
  | intro {location : Location} {asked : FieldEntry} {field : PlannedField} {entry : Entry}
      (resolved : r.fieldEntry location relation asked = .ok field)
      (form : forms.own field entry) : OwnOf asked (asked.displayOrder, entry)

/-- The entries of an inline parent: one for each entry that the parent has, in the parent's order
and with the display orders that they have there. -/
inductive LiftedOf : ParentTable → List (Option UInt32 × Entry) → Prop
  | intro {location : Location} {parent : ParentTable} {target : Relation} {site : Site}
      {inner : Walked Output} {link : InlineLink} {lifted : List (Option UInt32 × Entry)}
      (found : r.relation? parent.spec.table = some target)
      (matching : r.parentMatch location relation target parent.link parent.spec.condition.isSome =
        .ok link.matching)
      (walked : r.walkTable fold location target site parent.spec = .ok inner)
      (aligned : inner.displayOrders.length = (forms.entries inner.output).length)
      (each : List.Forall₂ (fun own entry => entry.1 = own.1 ∧ forms.lifted link own.2 entry.2)
        (inner.entries forms) lifted) : LiftedOf parent lifted

/-- The entry for a referenced parent. -/
inductive ReferenceOf : ParentTable → Option UInt32 × Entry → Prop
  | intro {location : Location} {parent : ParentTable} {target : Relation} {site : Site}
      {inner : Walked Output} {link : ReferenceLink} {entry : Entry}
      (name : parent.link.referenceName = some link.name)
      (order : link.displayOrder = parent.link.displayOrder)
      (found : r.relation? parent.spec.table = some target)
      (matching : r.parentMatch location relation target parent.link parent.spec.condition.isSome =
        .ok link.matching)
      (walked : r.walkTable fold location target site parent.spec = .ok inner)
      (form : forms.reference link inner.output entry) :
      ReferenceOf parent (parent.link.displayOrder, entry)

/-- The entry for a child. -/
inductive CollectionOf : ChildTable → Option UInt32 × Entry → Prop
  | intro {location : Location} {child : ChildTable} {target : Relation} {site : Site}
      {inner : Walked Output} {link : CollectionLink} {entry : Entry}
      (name : link.name = child.link.collectionName)
      (order : link.displayOrder = child.link.displayOrder)
      (unwrap : link.unwrap = child.link.unwraps)
      (found : r.relation? child.spec.table = some target)
      (walked : r.walkTable fold location target site child.spec = .ok inner)
      (form : forms.collection link inner.output entry) :
      CollectionOf child (child.link.displayOrder, entry)

/-- The entries of a table as they are gathered: those of its field list, those of its inline
parents, one parent after the other, those of its referenced parents, those of its children, all of
them in the order of the specification. -/
inductive WalkOrder (spec : TableSpec) : List (Option UInt32 × Entry) → Prop
  | intro {own references collections : List (Option UInt32 × Entry)}
      {lifted : List (List (Option UInt32 × Entry))}
      (fields : List.Forall₂ (OwnOf r forms relation) spec.fields own)
      (inlineParents : List.Forall₂ (LiftedOf r fold forms relation) spec.inlineParents lifted)
      (referencedParents : List.Forall₂ (ReferenceOf r fold forms relation)
        spec.referencedParents references)
      (children : List.Forall₂ (CollectionOf r fold forms) spec.children collections) :
      WalkOrder spec (own ++ lifted.flatten ++ references ++ collections)

/-- What was made of a table has as many entries as display orders, and these are the gathered
entries, stably sorted. -/
structure Arranged (spec : TableSpec) (walked : Walked Output) : Prop where
  aligned : walked.displayOrders.length = (forms.entries walked.output).length
  sorted : ∃ gathered, WalkOrder r fold forms relation spec gathered ∧
    StablySorted Prod.fst gathered (walked.entries forms)

/-- A fold that makes entries of the given forms and puts all of them into what it makes. -/
structure TableFold.Follows : Prop where
  finish : ∀ head frame entries, forms.entries (fold.finish head frame entries) = entries
  own : ∀ frame field, forms.own field (fold.fieldEntry frame field)
  lifted : ∀ frame link table output, List.Forall₂ (forms.lifted link) (forms.entries output)
    (fold.inlineEntries frame link table output).2
  reference : ∀ frame link table output,
    forms.reference link output (fold.referenceEntry frame link table output)
  collection : ∀ frame link table output,
    forms.collection link output (fold.collectionEntry frame link table output)

end Gathering

/-! ### Any walk -/

section Walks

variable {Site Frame Entry Output : Type} {fold : TableFold Site Frame Entry Output}
  {forms : EntryForms Entry Output} {r : Resolver} {location : Location} {relation : Relation}

/-- Entries are sorted together with their display orders, and then parted. -/
theorem TableFold.Follows.stablySorted (follows : fold.Follows forms) {head : TableHead}
    {frame : Frame} {gathered : List (Option UInt32 × Entry)} :
    StablySorted Prod.fst gathered
      ((Walked.mk (fold.finish head frame ((inDisplayOrder Prod.fst gathered).map Prod.snd))
        ((inDisplayOrder Prod.fst gathered).map Prod.fst)).entries forms) := by
  rw [Walked.entries, follows.finish]
  dsimp only
  rw [← List.zip_of_prod rfl rfl]
  exact stablySorted_inDisplayOrder _ _

/-- Lifting changes the entries of an inline parent one by one, so pairing them with the display
orders of the parent loses none. -/
theorem forall₂_zip_lifted {R : Entry → Entry → Prop} {orders : List (Option UInt32)}
    {entries lifted : List Entry} (each : List.Forall₂ R entries lifted) :
    List.Forall₂ (fun own entry => entry.1 = own.1 ∧ R own.2 entry.2) (orders.zip entries)
      (orders.zip lifted) := by
  induction each generalizing orders with
  | nil => simp
  | cons head _ ih =>
      cases orders with
      | nil => simp
      | cons order orders =>
          rw [List.zip_cons_cons, List.zip_cons_cons]
          exact .cons ⟨rfl, head⟩ ih

namespace Resolver

theorem gathered_fields (follows : fold.Follows forms) {table : String} {entries : List FieldEntry}
    {fields : List PlannedField} (frame : Frame)
    (resolved : r.fieldEntries location table relation entries = .ok fields) :
    List.Forall₂ (OwnOf r forms relation) entries
      (fields.map fun field => (field.displayOrder, fold.fieldEntry frame field)) := by
  rw [List.forall₂_map_right_iff]
  refine (fieldEntries_forall₂ resolved).imp ?_
  rintro asked field ⟨here, entryResolved⟩
  rw [← (fieldEntry_source entryResolved).1]
  exact .intro entryResolved (follows.own frame field)

/-- Tables whose walks arrange their entries. -/
def Arranges (r : Resolver) (fold : TableFold Site Frame Entry Output)
    (forms : EntryForms Entry Output) (spec : TableSpec) : Prop :=
  ∀ location relation site walked, r.walkTable fold location relation site spec = .ok walked →
    Arranged r fold forms relation spec walked

theorem gathered_inlined (follows : fold.Follows forms) {parents : List ParentTable}
    (inner : ∀ parent ∈ parents, r.Arranges fold forms parent.spec) {frame : Frame}
    {result : Frame × List (Option UInt32 × Entry)}
    (walked : r.walkInlined fold location relation parents frame = .ok result) :
    ∃ lifted, List.Forall₂ (LiftedOf r fold forms relation) (parents.filter (·.isInline)) lifted ∧
      result.2 = lifted.flatten := by
  induction parents generalizing frame result with
  | nil =>
      cases walked
      exact ⟨[], .nil, rfl⟩
  | cons parent parents ih =>
      obtain ⟨link, spec⟩ := parent
      have rest := @ih fun other member => inner other (List.mem_cons_of_mem _ member)
      rw [walkInlined] at walked
      cases named : link.referenceName with
      | some name =>
          rw [named] at walked
          rw [List.filter_cons_of_neg (by simp [ParentTable.isInline, named])]
          exact rest walked
      | none =>
          rw [named] at walked
          simp only [bind_eq_ok] at walked
          obtain ⟨target, found, matching, matched, made, innerWalked, others, later, equal⟩ :=
            walked
          cases equal
          obtain ⟨lifted, each, flat⟩ := rest later
          rw [List.filter_cons_of_pos (by simp [ParentTable.isInline, named])]
          refine ⟨_ :: lifted, .cons ?_ each, congrArg (_ ++ ·) flat⟩
          have arranged := inner ⟨link, spec⟩ List.mem_cons_self _ _ _ _ innerWalked
          exact .intro (table_eq_ok.mp found) matched innerWalked arranged.aligned
            (forall₂_zip_lifted (follows.lifted _ _ _ _))

theorem gathered_references (follows : fold.Follows forms) {parents : List ParentTable}
    {frame : Frame} {entries : List (Option UInt32 × Entry)}
    (walked : r.walkReferences fold location relation frame parents = .ok entries) :
    List.Forall₂ (ReferenceOf r fold forms relation) (parents.filter (!·.isInline)) entries := by
  induction parents generalizing entries with
  | nil =>
      cases walked
      exact .nil
  | cons parent parents ih =>
      obtain ⟨link, spec⟩ := parent
      rw [walkReferences] at walked
      cases named : link.referenceName with
      | none =>
          rw [named] at walked
          rw [List.filter_cons_of_neg (by simp [ParentTable.isInline, named])]
          exact ih walked
      | some name =>
          rw [named] at walked
          simp only [bind_eq_ok] at walked
          obtain ⟨target, found, matching, matched, made, innerWalked, others, later, equal⟩ :=
            walked
          cases equal
          rw [List.filter_cons_of_pos (by simp [ParentTable.isInline, named])]
          exact .cons (.intro named rfl (table_eq_ok.mp found) matched innerWalked
            (follows.reference _ _ _ _)) (ih later)

theorem gathered_collections (follows : fold.Follows forms) {children : List ChildTable}
    {frame : Frame} {entries : List (Option UInt32 × Entry)}
    (walked : r.walkCollections fold location relation frame children = .ok entries) :
    List.Forall₂ (CollectionOf r fold forms) children entries := by
  induction children generalizing entries with
  | nil =>
      cases walked
      exact .nil
  | cons child children ih =>
      obtain ⟨link, spec⟩ := child
      simp only [walkCollections, bind_eq_ok] at walked
      obtain ⟨target, found, pairs, -, made, innerWalked, checked⟩ := walked
      split at checked
      · cases checked
      · rw [bind_eq_ok] at checked
        obtain ⟨others, later, equal⟩ := checked
        cases equal
        exact .cons (.intro rfl rfl rfl (table_eq_ok.mp found) innerWalked
          (follows.collection _ _ _ _)) (ih later)

/-- **Walks arrange the entries of every table**, if their fold leaves out none. -/
theorem arranged_of_walkTable (follows : fold.Follows forms) (spec : TableSpec) :
    r.Arranges fold forms spec := by
  induction spec using TableSpec.tree_induction with
  | step spec parentsArranged _ =>
      intro location relation site walked made
      obtain ⟨table, aliasName, fields, parents, children, condition, resultTypeName⟩ := spec
      simp only [walkTable, bind_eq_ok] at made
      obtain ⟨own, resolved, inlined, inlinedWalked, references, referencesWalked, collections,
        collectionsWalked, checked⟩ := made
      split at checked
      · cases checked
      · cases checked
        obtain ⟨lifted, each, flat⟩ := gathered_inlined follows parentsArranged inlinedWalked
        rw [flat]
        have aligned : ∀ head frame (sorted : List (Option UInt32 × Entry)),
            (sorted.map Prod.fst).length =
              (forms.entries (fold.finish head frame (sorted.map Prod.snd))).length := by
          intro head frame sorted
          rw [follows.finish, List.length_map, List.length_map]
        exact ⟨aligned _ _ _, _, .intro (gathered_fields follows _ resolved) each
          (gathered_references follows referencesWalked)
          (gathered_collections follows collectionsWalked), follows.stablySorted⟩

end Resolver

end Walks

/-! ### The two generators -/

/-- The entries of statements. Those lifted from an inline parent are columns of its sub-query, by
the same names. -/
def statementForms : EntryForms SelectEntry Statement where
  entries := (·.select)
  own field entry := ∃ tableAlias, entry = field.entry tableAlias
  lifted _ own entry := ∃ comment subqueryAlias relation,
    entry = .inlined ⟨own.name, own.displayOrder, comment⟩ subqueryAlias relation
  reference link query entry := ∃ comment,
    entry = .reference ⟨link.name, link.displayOrder, comment⟩ { query with objectWrap := true }
  collection link query entry := ∃ comment leadingComment,
    entry = .collection ⟨link.name, link.displayOrder, comment⟩
      { query with aggregate := true, objectWrap := !link.unwrap, leadingComment }

/-- The properties of types. Those lifted from an inline parent may be nullable where they were not
before. -/
def propertyForms : EntryForms Property ResultType where
  entries := (·.properties)
  own field property := property = field.property
  lifted link own property := property = link.matching.lift own
  reference link type property :=
    property = .reference link.name type (!link.matching.guaranteed)
  collection link type property :=
    property = .collection link.name { type with unwrapped := link.unwrap } false

theorem statementFold_follows : statementFold.Follows statementForms where
  finish _ _ _ := rfl
  own frame _ := ⟨frame.aliasName, rfl⟩
  lifted frame link table parent := by
    change List.Forall₂ _ parent.select (liftedEntries _ _ _ parent)
    rw [← List.zipIdx_map_fst 0 parent.select, List.forall₂_map_left_iff, liftedEntries,
      List.forall₂_map_right_iff, List.forall₂_same]
    exact fun _ _ => ⟨_, _, _, rfl⟩
  reference _ _ _ _ := ⟨_, rfl⟩
  collection _ _ _ _ := ⟨_, _, rfl⟩

theorem resultTypeFold_follows (query : String) : (resultTypeFold query).Follows propertyForms where
  finish _ _ _ := rfl
  own _ _ := rfl
  lifted _ _ _ _ := List.forall₂_map_right_iff.mpr (List.forall₂_same.mpr fun _ _ => rfl)
  reference _ _ _ _ := rfl
  collection _ _ _ _ := rfl

/-- **Display order is a stable sort that loses nothing, at every table.** Whatever table a walk
makes a statement or a type of, the entries are those of its field list, those that its inline
parents have, those of its referenced parents and those of its children, sorted by the display order
asked for or else by position, and by position among equals. So are those of the statements and the
first type of a query. -/
theorem display_order_is_stable_and_lossless (r : Resolver) (query : Query) :
    (∀ location relation site spec walked,
      r.walkTable statementFold location relation site spec = .ok walked →
        walked.displayOrders = walked.output.select.map (·.displayOrder) ∧
        Arranged r statementFold statementForms relation spec walked) ∧
    (∀ location relation spec walked,
      r.walkTable (resultTypeFold query.name) location relation () spec = .ok walked →
        Arranged r (resultTypeFold query.name) propertyForms relation spec walked) ∧
    (∀ representation statement, query.statement r representation = .ok statement →
      ∃ relation walked, r.relation? query.table.table = some relation ∧
        r.walkTable statementFold (Location.root query.name) relation { orderBy := query.orderBy }
          query.table = .ok walked ∧
        statement.select = walked.output.select) ∧
    ∀ types, query.table.resultTypes r query.name = .ok types →
      ∃ relation walked, r.relation? query.table.table = some relation ∧
        r.walkTable (resultTypeFold query.name) (Location.root query.name) relation () query.table =
          .ok walked ∧
        types.head? = some walked.output := by
  refine ⟨?_, ?_, ?_, ?_⟩
  · intro location relation site spec walked made
    refine ⟨?_, r.arranged_of_walkTable statementFold_follows spec _ _ _ _ made⟩
    rw [r.walkTable_statementFold, map_eq_ok] at made
    obtain ⟨plan, -, rfl⟩ := made
    rfl
  · intro location relation spec walked made
    exact Resolver.arranged_of_walkTable (resultTypeFold_follows query.name) spec _ _ _ _ made
  · intro representation statement stated
    rw [Query.statement] at stated
    split at stated
    · cases stated
    · simp only [Resolver.walk, bind_eq_ok] at stated
      obtain ⟨walked, ⟨relation, found, made⟩, same⟩ := stated
      cases same
      exact ⟨relation, walked, Resolver.table_eq_ok.mp found, made,
        (query.represent_sameRows walked.output representation).select⟩
  · intro types typed
    simp only [TableSpec.resultTypes, Resolver.walk, bind_eq_ok] at typed
    obtain ⟨walked, ⟨relation, found, made⟩, same⟩ := typed
    cases same
    exact ⟨relation, walked, Resolver.table_eq_ok.mp found, made, rfl⟩

/-- The drug query: the reference to the analyst asks for the first place. So does, by its position,
the name, which is gathered before it. -/
theorem drugQuery_entries_are_arranged :
    ∃ statement relation walked top typed,
      Pharmacy.drugQuery.statement Pharmacy.resolver .jsonObjectRows = .ok statement ∧
      statement.names = ["name", "registered_by", "therapeutic_indications", "entered_by",
        "short_name", "advisories", "brands"] ∧
      statement.select = walked.output.select ∧
      Arranged Pharmacy.resolver statementFold statementForms relation Pharmacy.drugQuery.table
        walked ∧
      (Pharmacy.drugQuery.table.resultTypes Pharmacy.resolver Pharmacy.drugQuery.name).map
        (·.head?) = .ok (some top) ∧
      top = typed.output ∧
      Arranged Pharmacy.resolver (resultTypeFold Pharmacy.drugQuery.name) propertyForms relation
        Pharmacy.drugQuery.table typed := by
  have names : (Pharmacy.drugQuery.statement Pharmacy.resolver .jsonObjectRows).map (·.names) =
      .ok ["name", "registered_by", "therapeutic_indications", "entered_by", "short_name",
        "advisories", "brands"] := by
    decide +kernel
  have count : (Pharmacy.drugQuery.table.resultTypes Pharmacy.resolver
      Pharmacy.drugQuery.name).map (·.length) = .ok 3 := by
    decide +kernel
  obtain ⟨statement, stated, named⟩ := map_eq_ok.mp names
  obtain ⟨types, typesMade, -⟩ := map_eq_ok.mp count
  obtain ⟨statements, properties, ofStatement, ofTypes⟩ :=
    display_order_is_stable_and_lossless Pharmacy.resolver Pharmacy.drugQuery
  obtain ⟨relation, walked, found, made, select⟩ := ofStatement _ statement stated
  obtain ⟨relation', typed, found', typeMade, head⟩ := ofTypes types typesMade
  rw [found] at found'
  cases found'
  refine ⟨statement, relation, walked, typed.output, typed, stated, named, select,
    (statements _ _ _ _ _ made).2, ?_, rfl, properties _ _ _ _ typeMade⟩
  rw [typesMade, ← head]
  rfl

end NestedQuery
