import Mathlib.Data.List.Forall2
import Mathlib.Data.List.Nodup
import NestedQuery.Plan.Resolve

/-!
# What a resolved specification is made of

A plan exists only if every step of the resolution went well. The lemmas here take a successful
resolution apart: the plan of a table, then each of its parents and children with its own plan.

## Main Results

* `nodup_eraseDups`, `eraseDups_concat_of_mem`, `eraseDups_concat_of_not_mem`: first occurrences
* `TableSpec.tree_induction`, `TablePlan.tree_induction`: induction over the tables of a tree
* `Resolver.planTable_parts`: a planned table, part by part
* `Resolver.planInlined_forall₂`, `Resolver.planReferences_forall₂`,
  `Resolver.planCollections_forall₂`: parents and children correspond one to one to their plans
* `Resolver.planTable_of_parts` and the like: parts that are planned make a plan
-/

namespace NestedQuery

/-! ### Lists without repetitions

Of what is met several times only the first occurrence is kept: of the names that choose a foreign
key, of the wanted representations, of the types to be declared. -/

section FirstOccurrences

variable {α : Type} [BEq α] [LawfulBEq α] {x : α} {xs : List α}

theorem nodup_eraseDups (xs : List α) : xs.eraseDups.Nodup := by
  match xs with
  | [] => exact List.nodup_nil
  | x :: xs =>
      rw [List.eraseDups_cons, List.nodup_cons]
      refine ⟨?_, nodup_eraseDups _⟩
      rw [List.mem_eraseDups]
      simp
termination_by xs.length
decreasing_by
  rw [List.length_cons]
  exact Nat.lt_succ_of_le (List.length_filter_le ..)

/-- What has been met before adds nothing. -/
theorem eraseDups_concat_of_mem (met : x ∈ xs) : (xs ++ [x]).eraseDups = xs.eraseDups := by
  rw [List.eraseDups_append]
  simp [List.removeAll, met]

/-- What is new comes last. -/
theorem eraseDups_concat_of_not_mem (new : x ∉ xs) :
    (xs ++ [x]).eraseDups = xs.eraseDups ++ [x] := by
  rw [List.eraseDups_append]
  simp [List.removeAll, new, List.eraseDups_cons]

end FirstOccurrences

/-! ### Corresponding lists -/

theorem forall₂_mem_right {R : α → β → Prop} {xs : List α} {ys : List β}
    (lists : List.Forall₂ R xs ys) {y : β} (member : y ∈ ys) : ∃ x ∈ xs, R x y := by
  induction lists with
  | nil => cases member
  | @cons x z xs zs head _ ih =>
      rcases List.mem_cons.mp member with rfl | later
      · exact ⟨x, List.mem_cons_self, head⟩
      · obtain ⟨x, found, related⟩ := ih later
        exact ⟨x, List.mem_cons_of_mem _ found, related⟩

theorem forall₂_getElem? {R : α → β → Prop} {xs : List α} {ys : List β}
    (lists : List.Forall₂ R xs ys) {i : Nat} {x : α} {y : β} (left : xs[i]? = some x)
    (right : ys[i]? = some y) : R x y := by
  induction lists generalizing i with
  | nil => simp at left
  | cons head _ ih =>
      cases i with
      | zero =>
          simp only [List.getElem?_cons_zero, Option.some.injEq] at left right
          rw [← left, ← right]
          exact head
      | succ i => exact ih left right

theorem forall₂_with_mem {R : α → β → Prop} {xs : List α} {ys : List β}
    (lists : List.Forall₂ R xs ys) :
    List.Forall₂ (fun x y => x ∈ xs ∧ y ∈ ys ∧ R x y) xs ys := by
  induction lists with
  | nil => exact .nil
  | cons head _ ih =>
      refine .cons ⟨List.mem_cons_self, List.mem_cons_self, head⟩ (ih.imp ?_)
      rintro x y ⟨left, right, related⟩
      exact ⟨List.mem_cons_of_mem _ left, List.mem_cons_of_mem _ right, related⟩

/-! ### Computations that can fail -/

/-- A computation in two steps succeeds only if both steps do. -/
theorem bind_eq_ok {x : Except ε α} {f : α → Except ε β} {b : β} :
    (x >>= f) = .ok b ↔ ∃ a, x = .ok a ∧ f a = .ok b := by
  cases x with
  | error error => simp [bind, Except.bind]
  | ok a => simp [bind, Except.bind]

theorem map_eq_ok {x : Except ε α} {f : α → β} {b : β} :
    x.map f = .ok b ↔ ∃ a, x = .ok a ∧ f a = b := by
  cases x with
  | error error => simp [Except.map]
  | ok a => simp [Except.map]

/-- A list of computations succeeds only if each of them does. -/
theorem mapM_eq_ok {f : α → Except ε β} {xs : List α} {ys : List β} :
    xs.mapM f = .ok ys ↔ List.Forall₂ (fun x y => f x = .ok y) xs ys := by
  induction xs generalizing ys with
  | nil =>
      rw [List.mapM_nil, List.forall₂_nil_left_iff]
      exact ⟨fun equal => (Except.ok.inj equal).symm, fun equal => congrArg Except.ok equal.symm⟩
  | cons x xs ih =>
      rw [List.mapM_cons, bind_eq_ok, List.forall₂_cons_left_iff]
      refine exists_congr fun y => ?_
      rw [bind_eq_ok]
      constructor
      · rintro ⟨head, rest, tail, equal⟩
        exact ⟨rest, head, ih.mp tail, (Except.ok.inj equal).symm⟩
      · rintro ⟨rest, head, tail, rfl⟩
        exact ⟨head, rest, ih.mpr tail, rfl⟩

theorem bind_eq_error {x : Except ε α} {f : α → Except ε β} {error : ε} :
    (x >>= f) = .error error ↔ x = .error error ∨ ∃ a, x = .ok a ∧ f a = .error error := by
  cases x with
  | error other => simp [bind, Except.bind]
  | ok a => simp [bind, Except.bind]

/-- A list of computations fails with the error of the first one that fails. -/
theorem mapM_eq_error {f : α → Except ε β} {xs : List α} {error : ε} :
    xs.mapM f = .error error ↔ ∃ before x after, xs = before ++ x :: after ∧
      (∀ earlier ∈ before, ∃ y, f earlier = .ok y) ∧ f x = .error error := by
  induction xs with
  | nil => simp [List.mapM_nil, pure, Except.pure]
  | cons x xs ih =>
      rw [List.mapM_cons, bind_eq_error]
      constructor
      · rintro (here | ⟨y, head, later⟩)
        · exact ⟨[], x, xs, rfl, by simp, here⟩
        · rcases bind_eq_error.mp later with tail | ⟨ys, -, impossible⟩
          · obtain ⟨before, z, after, rfl, earlier, failed⟩ := ih.mp tail
            exact ⟨x :: before, z, after, rfl, by simpa [head] using earlier, failed⟩
          · cases impossible
      · rintro ⟨before, z, after, split, earlier, failed⟩
        cases before with
        | nil =>
            cases split
            exact .inl failed
        | cons first before =>
            cases split
            obtain ⟨y, head⟩ := earlier x List.mem_cons_self
            have rest := ih.mpr ⟨before, z, after, rfl,
              fun other member => earlier other (List.mem_cons_of_mem _ member), failed⟩
            exact .inr ⟨y, head, bind_eq_error.mpr (.inl rest)⟩

/-- A list of computations fails just if one of them does. -/
theorem mapM_fails_iff {f : α → Except ε β} {xs : List α} :
    (∃ error, xs.mapM f = .error error) ↔ ∃ x ∈ xs, ∃ error, f x = .error error := by
  constructor
  · rintro ⟨error, failed⟩
    obtain ⟨before, x, after, rfl, -, here⟩ := mapM_eq_error.mp failed
    exact ⟨x, by simp, error, here⟩
  · rintro ⟨x, member, error, here⟩
    cases result : xs.mapM f with
    | error first => exact ⟨first, rfl⟩
    | ok ys =>
        have each := mapM_eq_ok.mp result
        obtain ⟨i, bound, rfl⟩ := List.mem_iff_getElem.mp member
        have success := List.Forall₂.get each bound (each.length_eq ▸ bound)
        simp only [List.get_eq_getElem] at success
        rw [here] at success
        cases success

/-! ### Induction over trees -/

/-- What holds of a table whenever it holds of the tables around it holds of every table. -/
theorem TableSpec.tree_induction {motive : TableSpec → Prop}
    (step : ∀ spec : TableSpec, (∀ parent ∈ spec.parents, motive parent.spec) →
      (∀ child ∈ spec.children, motive child.spec) → motive spec) (spec : TableSpec) :
    motive spec :=
  step spec (fun parent _ => tree_induction step parent.spec)
    (fun child _ => tree_induction step child.spec)
termination_by sizeOf spec
decreasing_by
  · rename_i member
    have smaller := List.sizeOf_lt_of_mem member
    obtain ⟨table, aliasName, fields, parents, children, condition, resultTypeName⟩ := spec
    obtain ⟨link, parentSpec⟩ := parent
    simp only [ParentTable.mk.sizeOf_spec, TableSpec.mk.sizeOf_spec] at smaller ⊢
    omega
  · rename_i member
    have smaller := List.sizeOf_lt_of_mem member
    obtain ⟨table, aliasName, fields, parents, children, condition, resultTypeName⟩ := spec
    obtain ⟨link, childSpec⟩ := child
    simp only [ChildTable.mk.sizeOf_spec, TableSpec.mk.sizeOf_spec] at smaller ⊢
    omega

/-- What holds of a plan whenever it holds of the plans around it holds of every plan. -/
theorem TablePlan.tree_induction {motive : TablePlan → Prop}
    (step : ∀ plan : TablePlan, (∀ parent ∈ plan.inlined, motive parent.plan) →
      (∀ parent ∈ plan.references, motive parent.plan) →
      (∀ child ∈ plan.collections, motive child.plan) → motive plan) (plan : TablePlan) :
    motive plan :=
  step plan (fun parent _ => tree_induction step parent.plan)
    (fun parent _ => tree_induction step parent.plan)
    (fun child _ => tree_induction step child.plan)
termination_by sizeOf plan
decreasing_by
  all_goals
    rename_i member
    have smaller := List.sizeOf_lt_of_mem member
    obtain ⟨head, inlined, references, collections⟩ := plan
  · obtain ⟨link, parentPlan⟩ := parent
    simp only [InlinedParent.mk.sizeOf_spec, TablePlan.mk.sizeOf_spec] at smaller ⊢
    omega
  · obtain ⟨link, parentPlan⟩ := parent
    simp only [Reference.mk.sizeOf_spec, TablePlan.mk.sizeOf_spec] at smaller ⊢
    omega
  · obtain ⟨link, childPlan⟩ := child
    simp only [Collection.mk.sizeOf_spec, TablePlan.mk.sizeOf_spec] at smaller ⊢
    omega

/-! ### Parts of a plan -/

/-- The relation has a field of the given stored name, and it cannot be null. -/
def Relation.Requires (relation : Relation) (name : String) : Prop :=
  ∃ field, relation.field? name = some field ∧ field.nullable = some false

namespace Resolver

theorem table_eq_ok {r : Resolver} {location : Location} {table : String} {relation : Relation} :
    r.table location table = .ok relation ↔ r.relation? table = some relation := by
  rw [Resolver.table]
  cases r.relation? table with
  | none => simp
  | some found => simp

/-- The fields equated by a foreign key are the columns of the one key that qualifies. -/
theorem foreignKeyPairs_eq_ok {r : Resolver} {location : Location} {child parent : Relation}
    {fields : Option (List String)} {pairs : List FieldPair} :
    r.foreignKeyPairs location child parent fields = .ok pairs ↔
      ∃ key, r.database.foreignKey? child.id parent.id fields = .ok (some key) ∧
        key.columns = pairs := by
  rw [Resolver.foreignKeyPairs]
  cases r.database.foreignKey? child.id parent.id fields with
  | error error => simp
  | ok found =>
      cases found with
      | none => simp
      | some key => simp

/-- A foreign key is certain to find a row if one of its fields is required. -/
theorem guaranteed_foreignKey_iff {child : Relation} {pairs : List FieldPair} :
    guaranteed child pairs none false = true ↔ ∃ pair ∈ pairs, child.Requires pair.child := by
  simp [guaranteed, Relation.Requires, Option.bind_eq_some_iff]

/-- The parts of the plan of a table: what it takes from the specification, the plans of the
tables around it, and that there are properties. -/
structure PlanParts (r : Resolver) (location : Location) (relation : Relation) (spec : TableSpec)
    (plan : TablePlan) : Prop where
  head : plan.head = ⟨relation.id, relation.keyFields.map (·.name), spec.table, spec.aliasName,
    spec.condition, spec.resultTypeName, plan.head.fields⟩
  fields : r.fieldEntries location spec.table relation spec.fields = .ok plan.head.fields
  inlined : r.planInlined location relation spec.parents = .ok plan.inlined
  references : r.planReferences location relation spec.parents = .ok plan.references
  collections : r.planCollections location relation spec.children = .ok plan.collections
  count : plan.propertyCount ≠ 0

/-- How an inline parent is planned. -/
structure PlansInline (r : Resolver) (location : Location) (relation : Relation)
    (parent : ParentTable) (inlined : InlinedParent) (target : Relation) : Prop where
  found : r.relation? parent.spec.table = some target
  matching : r.parentMatch (location.enter (inlineParentPart parent.spec.table)) relation target
    parent.link parent.spec.condition.isSome = .ok inlined.link.matching
  subqueryAlias : inlined.link.subqueryAlias = parent.link.subqueryAlias
  plan : r.planTable (location.enter (inlineParentPart parent.spec.table)) target parent.spec =
    .ok inlined.plan

/-- How a referenced parent is planned. -/
structure PlansReference (r : Resolver) (location : Location) (relation : Relation)
    (parent : ParentTable) (reference : Reference) (target : Relation) : Prop where
  name : parent.link.referenceName = some reference.link.name
  displayOrder : reference.link.displayOrder = parent.link.displayOrder
  found : r.relation? parent.spec.table = some target
  matching : r.parentMatch
    (location.enter (referencePart parent.spec.table reference.link.name)) relation target
    parent.link parent.spec.condition.isSome = .ok reference.link.matching
  plan : r.planTable (location.enter (referencePart parent.spec.table reference.link.name)) target
    parent.spec = .ok reference.plan

/-- How a child is planned. -/
structure PlansCollection (r : Resolver) (location : Location) (relation : Relation)
    (child : ChildTable) (collection : Collection) (target : Relation) : Prop where
  link : collection.link = ⟨child.link.collectionName, collection.link.pairs, child.link.filter,
    child.link.unwraps, child.link.orderBy, child.link.displayOrder⟩
  found : r.relation? child.spec.table = some target
  pairs : r.childPairs (location.enter (collectionPart child.spec.table child.link.collectionName))
    target relation child.link = .ok collection.link.pairs
  plan : r.planTable (location.enter (collectionPart child.spec.table child.link.collectionName))
    target child.spec = .ok collection.plan
  unwrapped : child.link.unwraps = true → collection.plan.propertyCount = 1

variable {r : Resolver} {location : Location} {relation : Relation}

theorem planTable_parts {spec : TableSpec} {plan : TablePlan}
    (planned : r.planTable location relation spec = .ok plan) :
    PlanParts r location relation spec plan := by
  obtain ⟨table, aliasName, fields, parents, children, condition, resultTypeName⟩ := spec
  simp only [planTable, bind_eq_ok] at planned
  obtain ⟨own, fieldsPlanned, inlined, inlinedPlanned, references, referencesPlanned, collections,
    collectionsPlanned, checked⟩ := planned
  split at checked
  · cases checked
  · rename_i count
    cases checked
    exact ⟨rfl, fieldsPlanned, inlinedPlanned, referencesPlanned, collectionsPlanned, count⟩

theorem relation_of_planTable {spec : TableSpec} {plan : TablePlan}
    (planned : r.planTable location relation spec = .ok plan) :
    plan.head.relation = relation.id :=
  congrArg TableHead.relation (planTable_parts planned).head

/-- The entries of a field list correspond to what is planned for them. -/
theorem fieldEntries_forall₂ {table : String} {entries : List FieldEntry}
    {fields : List PlannedField}
    (planned : r.fieldEntries location table relation entries = .ok fields) :
    List.Forall₂ (fun entry field => ∃ here, r.fieldEntry here relation entry = .ok field)
      entries fields := by
  rw [fieldEntries, mapM_eq_ok] at planned
  have numbered : List.Forall₂ (fun entry field => ∃ here,
      r.fieldEntry here relation entry.1 = .ok field) entries.zipIdx fields :=
    planned.imp fun _ _ resolved => ⟨_, resolved⟩
  rw [← List.zipIdx_map_fst 0 entries, List.forall₂_map_left_iff]
  exact numbered

/-- The inline parents correspond to their plans. -/
theorem planInlined_forall₂ {parents : List ParentTable} {inlined : List InlinedParent}
    (planned : r.planInlined location relation parents = .ok inlined) :
    List.Forall₂ (fun parent inlined => ∃ target, PlansInline r location relation parent inlined
      target) (parents.filter (·.isInline)) inlined := by
  induction parents generalizing inlined with
  | nil =>
      cases planned
      exact .nil
  | cons parent parents ih =>
      obtain ⟨link, spec⟩ := parent
      rw [planInlined] at planned
      cases named : link.referenceName with
      | some name =>
          rw [named] at planned
          have skipped : (ParentTable.mk link spec :: parents).filter (·.isInline) =
              parents.filter (·.isInline) := by
            simp [ParentTable.isInline, named]
          rw [skipped]
          exact ih planned
      | none =>
          rw [named] at planned
          simp only [bind_eq_ok] at planned
          obtain ⟨target, found, matching, matched, plan, planned, others, rest, equal⟩ := planned
          cases equal
          have kept : (ParentTable.mk link spec :: parents).filter (·.isInline) =
              ⟨link, spec⟩ :: parents.filter (·.isInline) := by
            simp [ParentTable.isInline, named]
          rw [kept]
          exact .cons ⟨target, table_eq_ok.mp found, matched, rfl, planned⟩ (ih rest)

/-- The referenced parents correspond to their plans. -/
theorem planReferences_forall₂ {parents : List ParentTable} {references : List Reference}
    (planned : r.planReferences location relation parents = .ok references) :
    List.Forall₂ (fun parent reference => ∃ target, PlansReference r location relation parent
      reference target) (parents.filter (!·.isInline)) references := by
  induction parents generalizing references with
  | nil =>
      cases planned
      exact .nil
  | cons parent parents ih =>
      obtain ⟨link, spec⟩ := parent
      rw [planReferences] at planned
      cases named : link.referenceName with
      | none =>
          rw [named] at planned
          have skipped : (ParentTable.mk link spec :: parents).filter (!·.isInline) =
              parents.filter (!·.isInline) := by
            simp [ParentTable.isInline, named]
          rw [skipped]
          exact ih planned
      | some name =>
          rw [named] at planned
          simp only [bind_eq_ok] at planned
          obtain ⟨target, found, matching, matched, plan, planned, others, rest, equal⟩ := planned
          cases equal
          have kept : (ParentTable.mk link spec :: parents).filter (!·.isInline) =
              ⟨link, spec⟩ :: parents.filter (!·.isInline) := by
            simp [ParentTable.isInline, named]
          rw [kept]
          exact .cons ⟨target, named, rfl, table_eq_ok.mp found, matched, planned⟩ (ih rest)

/-- The children correspond to their plans. -/
theorem planCollections_forall₂ {children : List ChildTable} {collections : List Collection}
    (planned : r.planCollections location relation children = .ok collections) :
    List.Forall₂ (fun child collection => ∃ target, PlansCollection r location relation child
      collection target) children collections := by
  induction children generalizing collections with
  | nil =>
      cases planned
      exact .nil
  | cons child children ih =>
      obtain ⟨link, spec⟩ := child
      simp only [planCollections, bind_eq_ok] at planned
      obtain ⟨target, found, pairs, matched, plan, planned, checked⟩ := planned
      split at checked
      · cases checked
      · rename_i allowed
        rw [bind_eq_ok] at checked
        obtain ⟨others, rest, equal⟩ := checked
        cases equal
        have single : link.unwraps = true → plan.propertyCount = 1 := by
          intro unwraps
          simpa [unwraps] using allowed
        exact .cons ⟨target, rfl, table_eq_ok.mp found, matched, planned, single⟩ (ih rest)

/-! ### Plans from their parts -/

theorem planTable_of_parts {spec : TableSpec} {plan : TablePlan}
    (parts : PlanParts r location relation spec plan) :
    r.planTable location relation spec = .ok plan := by
  obtain ⟨table, aliasName, fields, parents, children, condition, resultTypeName⟩ := spec
  obtain ⟨head, inlined, references, collections⟩ := plan
  obtain ⟨headEq, fieldsPlanned, inlinedPlanned, referencesPlanned, collectionsPlanned, count⟩ :=
    parts
  dsimp only at headEq fieldsPlanned inlinedPlanned referencesPlanned collectionsPlanned
  rw [planTable, fieldsPlanned, inlinedPlanned, referencesPlanned, collectionsPlanned]
  rw [headEq] at count ⊢
  exact if_neg count

/-- A field list is resolved if each of its entries is, wherever it is met. -/
theorem fieldEntries_of_forall₂ {entries : List FieldEntry} {fields : List PlannedField}
    (resolved : List.Forall₂ (fun entry field => ∀ here,
      r.fieldEntry here relation entry = .ok field) entries fields) (table : String) :
    r.fieldEntries location table relation entries = .ok fields := by
  rw [← List.zipIdx_map_fst 0 entries, List.forall₂_map_left_iff] at resolved
  rw [fieldEntries, mapM_eq_ok]
  exact resolved.imp fun _ _ everywhere => everywhere _

theorem planInlined_of_forall₂ {parents : List ParentTable} {inlined : List InlinedParent}
    (planned : List.Forall₂ (fun parent inlined => ∃ target, PlansInline r location relation parent
      inlined target) (parents.filter (·.isInline)) inlined) :
    r.planInlined location relation parents = .ok inlined := by
  induction parents generalizing inlined with
  | nil =>
      cases planned
      rfl
  | cons parent parents ih =>
      obtain ⟨link, spec⟩ := parent
      rw [planInlined]
      cases named : link.referenceName with
      | some name =>
          rw [List.filter_cons_of_neg (by simp [ParentTable.isInline, named])] at planned
          exact ih planned
      | none =>
          rw [List.filter_cons_of_pos (by simp [ParentTable.isInline, named])] at planned
          obtain _ | ⟨⟨target, found, matched, subquery, tablePlanned⟩, rest⟩ := planned
          rename_i first others
          obtain ⟨⟨matching, subqueryAlias⟩, plan⟩ := first
          dsimp only at found matched subquery tablePlanned ⊢
          rw [table_eq_ok.mpr found, ih rest]
          simp only [bind, Except.bind, matched, tablePlanned, subquery]
          rfl

theorem planReferences_of_forall₂ {parents : List ParentTable} {references : List Reference}
    (planned : List.Forall₂ (fun parent reference => ∃ target, PlansReference r location relation
      parent reference target) (parents.filter (!·.isInline)) references) :
    r.planReferences location relation parents = .ok references := by
  induction parents generalizing references with
  | nil =>
      cases planned
      rfl
  | cons parent parents ih =>
      obtain ⟨link, spec⟩ := parent
      rw [planReferences]
      cases named : link.referenceName with
      | none =>
          rw [List.filter_cons_of_neg (by simp [ParentTable.isInline, named])] at planned
          exact ih planned
      | some name =>
          rw [List.filter_cons_of_pos (by simp [ParentTable.isInline, named])] at planned
          obtain _ | ⟨⟨target, sameName, order, found, matched, tablePlanned⟩, rest⟩ := planned
          rename_i first others
          obtain ⟨⟨referenceName, matching, displayOrder⟩, plan⟩ := first
          dsimp only at sameName order found matched tablePlanned ⊢
          cases named.symm.trans sameName
          rw [table_eq_ok.mpr found, ih rest]
          simp only [bind, Except.bind, matched, tablePlanned, order]
          rfl

theorem planCollections_of_forall₂ {children : List ChildTable} {collections : List Collection}
    (planned : List.Forall₂ (fun child collection => ∃ target, PlansCollection r location relation
      child collection target) children collections) :
    r.planCollections location relation children = .ok collections := by
  induction planned with
  | nil => rfl
  | @cons child collection children collections head _ ih =>
      obtain ⟨target, linkEq, found, matched, tablePlanned, single⟩ := head
      obtain ⟨link, spec⟩ := child
      obtain ⟨collectionLink, plan⟩ := collection
      dsimp only at linkEq found matched tablePlanned single
      have unchecked : (link.unwraps && plan.propertyCount != 1) = false := by
        cases unwraps : link.unwraps with
        | false => rfl
        | true => simp [single unwraps]
      rw [planCollections, table_eq_ok.mpr found, ih, linkEq]
      simp only [bind, Except.bind, matched, tablePlanned, unchecked]
      rfl

end Resolver

end NestedQuery
