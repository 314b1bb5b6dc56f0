import NestedQuery.Proofs.EntryOrder

/-!
# The names of properties

The properties of a table get their names from five places: given names of fields, names made of the
names of fields, the names of referenced parents, those of collections, and through inline parents
all these of other tables. No walk compares them. The names of what is made of a table are therefore
just those that the specification gives, each as often as it is given, and they are different from
each other only if the specification takes care that they are.

## Main Definitions

* `TableSpec.propertyNames`: the names that a specification gives the properties of a table

## Main Results

* `Resolver.names_of_walkTable`: walks neither lose, add nor change a name
* `names_are_distinct_iff_given_so`: when the names at a table are different
* `two_ids_at_one_table`: a specification that is accepted although they are not
-/

namespace NestedQuery

/-! ### Names in a specification -/

mutual

/-- The names that a specification gives the properties of a table: those for its field list, those
that its inline parents have, those of its referenced parents and those of its collections. -/
def TableSpec.propertyNames (r : Resolver) : TableSpec → List String
  | ⟨_, _, fields, parents, children, _, _⟩ =>
    fields.map (·.propertyName r) ++ ParentTable.inlineNames r parents
      ++ parents.filterMap (·.link.referenceName) ++ children.map (·.link.collectionName)
termination_by structural spec => spec

/-- The names that the inline ones of some parents have. -/
def ParentTable.inlineNames (r : Resolver) : List ParentTable → List String
  | [] => []
  | ⟨link, spec⟩ :: parents =>
    match link.referenceName with
    | some _ => ParentTable.inlineNames r parents
    | none => spec.propertyNames r ++ ParentTable.inlineNames r parents
termination_by structural parents => parents

end

theorem ParentTable.inlineNames_eq_flatMap (r : Resolver) (parents : List ParentTable) :
    ParentTable.inlineNames r parents =
      (parents.filter (·.isInline)).flatMap (·.spec.propertyNames r) := by
  induction parents with
  | nil => rfl
  | cons parent parents ih =>
      obtain ⟨link, spec⟩ := parent
      rw [ParentTable.inlineNames, ih]
      cases named : link.referenceName with
      | some name => rw [List.filter_cons_of_neg (by simp [ParentTable.isInline, named])]
      | none =>
          rw [List.filter_cons_of_pos (by simp [ParentTable.isInline, named]), List.flatMap_cons]

theorem TableSpec.propertyNames_eq (r : Resolver) (spec : TableSpec) :
    spec.propertyNames r =
      spec.fields.map (·.propertyName r) ++ spec.inlineParents.flatMap (·.spec.propertyNames r)
        ++ spec.referencedParents.filterMap (·.link.referenceName)
        ++ spec.children.map (·.link.collectionName) := by
  obtain ⟨table, aliasName, fields, parents, children, condition, resultTypeName⟩ := spec
  have referenced : parents.filterMap (·.link.referenceName) =
      (parents.filter (!·.isInline)).filterMap (·.link.referenceName) := by
    rw [List.filterMap_filter]
    refine List.filterMap_congr fun parent _ => ?_
    cases named : parent.link.referenceName <;> simp [ParentTable.isInline, named]
  rw [TableSpec.propertyNames, ParentTable.inlineNames_eq_flatMap, referenced]
  rfl

/-! ### Names in a walk -/

theorem StablySorted.perm {order : α → Option UInt32} {entries sorted : List α}
    (stable : StablySorted order entries sorted) : sorted.Perm entries := by
  obtain ⟨placed, perm, rfl, -⟩ := stable
  rw [← List.zipIdx_map_fst 0 entries]
  exact perm.map Prod.fst

section Walks

variable {Site Frame Entry Output : Type} {fold : TableFold Site Frame Entry Output}
  {forms : EntryForms Entry Output} {name : Entry → String} {r : Resolver} {relation : Relation}

/-- Entries have the names of what they are made of. -/
structure EntryForms.Named (forms : EntryForms Entry Output) (name : Entry → String) : Prop where
  own : ∀ {field entry}, forms.own field entry → name entry = field.name
  lifted : ∀ {link own entry}, forms.lifted link own entry → name entry = name own
  reference : ∀ {link output entry}, forms.reference link output entry → name entry = link.name
  collection : ∀ {link output entry}, forms.collection link output entry → name entry = link.name

/-- Lists whose elements correspond by equal images have equal lists of images. -/
theorem map_eq_map_of_forall₂ {f : α → γ} {g : β → γ} {xs : List α} {ys : List β}
    (each : List.Forall₂ (fun x y => f x = g y) xs ys) : xs.map f = ys.map g := by
  have images : List.Forall₂ (· = ·) (xs.map f) (ys.map g) := by
    rw [List.forall₂_map_left_iff, List.forall₂_map_right_iff]
    exact each
  rwa [List.forall₂_eq_eq_eq] at images

theorem filterMap_eq_map_of_forall₂ {f : α → Option γ} {g : β → γ} {xs : List α} {ys : List β}
    (each : List.Forall₂ (fun x y => f x = some (g y)) xs ys) : xs.filterMap f = ys.map g := by
  induction each with
  | nil => rfl
  | cons head _ ih => rw [List.filterMap_cons_some head, List.map_cons, ih]

theorem flatten_perm_flatMap {f : α → List γ} {g : β → γ} {xs : List α} {lists : List (List β)}
    (each : List.Forall₂ (fun x list => (list.map g).Perm (f x)) xs lists) :
    (lists.flatten.map g).Perm (xs.flatMap f) := by
  induction each with
  | nil => exact List.Perm.refl _
  | cons head _ ih =>
      rw [List.flatten_cons, List.map_append, List.flatMap_cons]
      exact head.append ih

namespace Resolver

/-- The walks over a table give it the names that its specification gives. -/
def KeepsNames (r : Resolver) (fold : TableFold Site Frame Entry Output)
    (forms : EntryForms Entry Output) (name : Entry → String) (spec : TableSpec) : Prop :=
  ∀ location relation site walked, r.walkTable fold location relation site spec = .ok walked →
    ((forms.entries walked.output).map name).Perm (spec.propertyNames r)

end Resolver

theorem Walked.map_snd_entries {walked : Walked Output}
    (aligned : walked.displayOrders.length = (forms.entries walked.output).length) :
    (walked.entries forms).map Prod.snd = forms.entries walked.output :=
  List.map_snd_zip (Nat.le_of_eq aligned.symm)

theorem LiftedOf.names (named : forms.Named name) {parent : ParentTable}
    {entries : List (Option UInt32 × Entry)}
    (lifted : LiftedOf r fold forms relation parent entries)
    (inner : r.KeepsNames fold forms name parent.spec) :
    (entries.map (name ·.2)).Perm (parent.spec.propertyNames r) := by
  obtain ⟨-, -, walked, aligned, each⟩ := lifted
  rename_i made _
  have same : (made.entries forms).map (name ·.2) = entries.map (name ·.2) :=
    map_eq_map_of_forall₂ (each.imp fun _ _ lifts => (named.lifted lifts.2).symm)
  have entryNames : (made.entries forms).map (name ·.2) =
      (forms.entries made.output).map name := by
    rw [← Walked.map_snd_entries aligned, List.map_map]
    rfl
  rw [← same, entryNames]
  exact inner _ _ _ _ walked

/-- The names of gathered entries. -/
theorem WalkOrder.names (named : forms.Named name) {spec : TableSpec}
    {gathered : List (Option UInt32 × Entry)}
    (order : WalkOrder r fold forms relation spec gathered)
    (inner : ∀ parent ∈ spec.parents, r.KeepsNames fold forms name parent.spec) :
    (gathered.map (name ·.2)).Perm (spec.propertyNames r) := by
  obtain ⟨fields, inlineParents, referencedParents, children⟩ := order
  rename_i own references collections lifted
  have ownNames : spec.fields.map (·.propertyName r) = own.map (name ·.2) := by
    refine map_eq_map_of_forall₂ (fields.imp ?_)
    rintro asked pair ⟨resolved, form⟩
    rw [named.own form, (Resolver.fieldEntry_label resolved).1]
  have liftedNames : (lifted.flatten.map (name ·.2)).Perm
      (spec.inlineParents.flatMap (·.spec.propertyNames r)) := by
    refine flatten_perm_flatMap ((forall₂_with_mem inlineParents).imp ?_)
    rintro parent entries ⟨member, -, lifts⟩
    exact lifts.names named (inner parent (List.mem_filter.mp member).1)
  have referenceNames : spec.referencedParents.filterMap (·.link.referenceName) =
      references.map (name ·.2) := by
    refine filterMap_eq_map_of_forall₂ (referencedParents.imp ?_)
    rintro parent pair ⟨link, -, -, -, -, form⟩
    rw [named.reference form, link]
  have collectionNames : spec.children.map (·.link.collectionName) =
      collections.map (name ·.2) := by
    refine map_eq_map_of_forall₂ (children.imp ?_)
    rintro child pair ⟨link, -, -, -, -, form⟩
    rw [named.collection form, link]
  rw [spec.propertyNames_eq, ownNames, referenceNames, collectionNames, List.map_append,
    List.map_append, List.map_append]
  exact ((liftedNames.append_left _).append_right _).append_right _

/-- **Walks keep names.** The names at a table are those that its specification gives, each as often
as it is given. -/
theorem Resolver.names_of_walkTable (follows : fold.Follows forms) (named : forms.Named name)
    (spec : TableSpec) : r.KeepsNames fold forms name spec := by
  induction spec using TableSpec.tree_induction with
  | step spec parentsKeep _ =>
      intro location relation site walked made
      obtain ⟨aligned, gathered, order, sorted⟩ :=
        arranged_of_walkTable follows spec _ _ _ _ made
      have entryNames : (forms.entries walked.output).map name =
          (walked.entries forms).map (name ·.2) := by
        rw [← Walked.map_snd_entries aligned, List.map_map]
        rfl
      rw [entryNames]
      exact (sorted.perm.map _).trans (order.names named parentsKeep)

end Walks

theorem statementForms_named : statementForms.Named SelectEntry.name where
  own := by
    rintro ⟨name, source, sourceType, displayOrder⟩ entry ⟨tableAlias, rfl⟩
    cases source with
    | field stored => rfl
    | expression sql placeholder => rfl
  lifted := by
    rintro link own entry ⟨comment, subqueryAlias, relation, rfl⟩
    rfl
  reference := by
    rintro link query entry ⟨comment, rfl⟩
    rfl
  collection := by
    rintro link query entry ⟨comment, leadingComment, rfl⟩
    rfl

/-! ### Tables of an accepted specification -/

/-- An accepted specification has a plan at each of its tables, wherever the table is met. -/
theorem Resolver.succeeds_planTable_of_node {r : Resolver} {location : Location}
    {root spec : TableSpec} (accepted : Succeeds (r.plan location root)) (node : root.Node spec) :
    ∃ relation, r.relation? spec.table = some relation ∧
      ∀ here, Succeeds (r.planTable here relation spec) := by
  have valid : r.Valid r.keys spec := fun table reached =>
    (r.plans_iff_valid location root).mp accepted table (node.trans reached)
  obtain ⟨relation, names, admits⟩ := valid_iff_admits.mp valid
  exact ⟨relation, relation?_eq_some.mpr names, fun here =>
    (r.planTable_exact spec here relation).mpr admits⟩

/-- **The names at a table are different just if they are given so.** Whatever table of an accepted
specification a statement and a type are made of, both have the same names in the same order, and
these are, each as often as it is given, the names that the specification gives there, those of
inline parents included. So no two of them are the same if and only if no name is given twice. -/
theorem names_are_distinct_iff_given_so (r : Resolver) (query : String) {location : Location}
    {root spec : TableSpec}
    (accepted : (∃ site, Succeeds (r.walk statementFold location site root)) ∨
      Succeeds (r.walk (resultTypeFold query) location () root))
    (node : root.Node spec) :
    ∃ relation, r.relation? spec.table = some relation ∧
      ∀ here site, ∃ stated typed,
        r.walkTable statementFold here relation site spec = .ok stated ∧
        r.walkTable (resultTypeFold query) here relation () spec = .ok typed ∧
        typed.output.properties.map (·.name) = stated.output.names ∧
        stated.output.names.Perm (spec.propertyNames r) ∧
        (stated.output.names.Nodup ↔ (spec.propertyNames r).Nodup) := by
  have planned : Succeeds (r.plan location root) := by
    rcases accepted with ⟨site, succeeds⟩ | succeeds
    · rwa [r.walk_statementFold, succeeds_map] at succeeds
    · rwa [r.walk_resultTypeFold, succeeds_map] at succeeds
  obtain ⟨relation, found, plans⟩ := Resolver.succeeds_planTable_of_node planned node
  refine ⟨relation, found, ?_⟩
  intro here site
  obtain ⟨plan, made⟩ := plans here
  have stated := r.walkTable_statementFold here relation site spec
  have typed := r.walkTable_resultTypeFold query here relation spec
  rw [made] at stated typed
  have perm := r.names_of_walkTable statementFold_follows statementForms_named spec _ _ _ _ stated
  refine ⟨_, _, stated, typed, ?_, perm, perm.nodup_iff⟩
  have columns : List.Forall₂ (fun property entry => property.name = entry.name)
      ((plan.properties query).map Prod.snd) (plan.statement site).select := by
    rw [List.forall₂_map_left_iff]
    exact (plan.hasColumns query site).flip.imp fun _ _ column => column.name.symm
  exact map_eq_map_of_forall₂ columns

/-- The drugs of the drug query and, among the tables around them, the compounds. -/
theorem drugs_have_distinct_names :
    Pharmacy.drugs.Node Pharmacy.compounds ∧
    Succeeds (Pharmacy.resolver.walk (resultTypeFold "drugs") (Location.root "drugs") ()
      Pharmacy.drugs) ∧
    ∀ spec ∈ [Pharmacy.drugs, Pharmacy.compounds], (spec.propertyNames Pharmacy.resolver).Nodup ∧
      ∃ relation, Pharmacy.resolver.relation? spec.table = some relation ∧
        ∀ here site, ∃ stated typed,
          Pharmacy.resolver.walkTable statementFold here relation site spec = .ok stated ∧
          Pharmacy.resolver.walkTable (resultTypeFold "drugs") here relation () spec =
            .ok typed ∧
          typed.output.properties.map (·.name) = stated.output.names ∧
          stated.output.names.Nodup := by
  have inside : Pharmacy.drugs.Node (Pharmacy.inlineParent none Pharmacy.compounds).spec :=
    .parent .root List.mem_cons_self
  have count : (Pharmacy.resolver.walk (resultTypeFold "drugs") (Location.root "drugs") ()
      Pharmacy.drugs).map (·.propertyCount) = .ok 7 := by
    decide +kernel
  obtain ⟨walked, made, -⟩ := map_eq_ok.mp count
  have distinct : ∀ spec ∈ [Pharmacy.drugs, Pharmacy.compounds],
      (spec.propertyNames Pharmacy.resolver).Nodup := by
    decide +kernel
  refine ⟨inside, ⟨walked, made⟩, ?_⟩
  intro spec member
  have node : Pharmacy.drugs.Node spec := by
    rcases List.mem_cons.mp member with rfl | rest
    · exact .root
    · rw [List.mem_singleton.mp rest]
      exact inside
  refine ⟨distinct spec member, ?_⟩
  obtain ⟨relation, found, walks⟩ :=
    names_are_distinct_iff_given_so Pharmacy.resolver "drugs" (.inr ⟨walked, made⟩) node
  refine ⟨relation, found, ?_⟩
  intro here site
  obtain ⟨stated, typed, statedMade, typedMade, same, -, iff⟩ := walks here site
  exact ⟨stated, typed, statedMade, typedMade, same, iff.mpr (distinct spec member)⟩

/-- The drugs with their ids, and among these properties the ids of their compounds. -/
def Pharmacy.drugIds : TableSpec :=
  ⟨"drug", none, [.named "id"],
    [inlineParent none ⟨"compound", none, [.named "id"], [], [], none, none⟩], [], none, none⟩

/-- **Not every accepted specification has different names.** Both the drugs and their compounds
have a property `id`, and so has the type and the statement of the drugs, twice. -/
theorem two_ids_at_one_table :
    ∃ typed stated,
      Pharmacy.resolver.walk (resultTypeFold "ids") (Location.root "ids") () Pharmacy.drugIds =
        .ok typed ∧
      Pharmacy.resolver.walk statementFold (Location.root "ids") {} Pharmacy.drugIds =
        .ok stated ∧
      typed.output.properties.map (·.name) = ["id", "id"] ∧
      stated.output.names = ["id", "id"] ∧
      ¬ (typed.output.properties.map (·.name)).Nodup ∧ ¬ stated.output.names.Nodup := by
  have properties : (Pharmacy.resolver.walk (resultTypeFold "ids") (Location.root "ids") ()
      Pharmacy.drugIds).map (·.output.properties.map (·.name)) = .ok ["id", "id"] := by
    decide +kernel
  have entries : (Pharmacy.resolver.walk statementFold (Location.root "ids") {}
      Pharmacy.drugIds).map (·.output.names) = .ok ["id", "id"] := by
    decide +kernel
  obtain ⟨typed, typedMade, typedNames⟩ := map_eq_ok.mp properties
  obtain ⟨stated, statedMade, statedNames⟩ := map_eq_ok.mp entries
  refine ⟨typed, stated, typedMade, statedMade, typedNames, statedNames, ?_, ?_⟩
  · rw [typedNames]
    decide
  · rw [statedNames]
    decide

end NestedQuery
