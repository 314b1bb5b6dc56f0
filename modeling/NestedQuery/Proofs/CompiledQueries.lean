import Mathlib.Data.List.Induction
import NestedQuery.Compile.Group
import NestedQuery.Proofs.Validity
import NestedQuery.Spec.Pharmacy

/-!
# Compiled queries and their parameters

A query is compiled in several steps, and the result has a part from each of them. One part are the
parameters: they are gathered from the record conditions of all tables, children before parents and
parents before the table itself, and each is kept where it is first met.

A place where a parameter is listed is told by the way to it. The order of the walk is an order of
such places, and the parameters of a compiled query come in the order of their first places.

## Main Definitions

* `CompiledFrom`: what a compiled query is made of
* `ParamSite`, `ParamSite.Before`: places in a table tree, and the order of the walk
* `TableSpec.ListsAt`: the parameter that is listed at a place
* `TableSpec.paramSites`: all of them in a list

## Main Results

* `compiledFrom_of_compileQuery`: a compilation that succeeds, part by part
* `TableSpec.pairwise_paramSites`: the list is in the order of the walk
* `pairwise_eraseDups_of_sites`: to drop repetitions keeps the order of first places
* `parameters_are_complete_and_ordered`: the parameters of a compiled query
-/

namespace NestedQuery

/-! ### Compiled queries -/

theorem orFail_eq_ok {wrap : ε → CompileError} {x : Except ε α} {value : α} :
    orFail wrap x = .ok value ↔ x = .ok value := by
  cases x with
  | error error => simp [orFail]
  | ok other => simp [orFail]

/-- What a compiled query is made of. -/
structure CompiledFrom (compiler : GroupCompiler) (query : Query) (compiled : CompiledQuery) :
    Prop where
  paramNames : compiled.paramNames = query.paramNames.eraseDups
  resultTypes : query.wantsResultTypes = true →
    ∃ named, compiler.resultTypes query = .ok named ∧ compiled.resultTypes = some named
  source : compiler.sourceOf query compiled.sqls compiled.paramNames compiled.resultTypes =
    .ok compiled.source

theorem compiledFrom_of_compileQuery {compiler : GroupCompiler} {query : Query}
    {compiled : CompiledQuery} (accepted : compiler.compileQuery query = .ok compiled) :
    CompiledFrom compiler query compiled := by
  have body : compiler.compileBody query = .ok compiled := by
    unfold GroupCompiler.compileQuery at accepted
    split at accepted
    · rename_i made body
      rw [body, accepted]
    · cases accepted
  simp only [GroupCompiler.compileBody, bind_eq_ok, orFail_eq_ok] at body
  obtain ⟨statements, -, rest⟩ := body
  cases statements with
  | nil =>
      obtain ⟨first, impossible, -⟩ := bind_eq_ok.mp rest
      cases impossible
  | cons statement others =>
      simp only [bind_eq_ok, orFail_eq_ok] at rest
      obtain ⟨first, -, origins, -, sqls, -, rest⟩ := rest
      cases wanted : query.wantsResultTypes with
      | true =>
          simp only [wanted, if_true, bind_eq_ok, map_eq_ok, orFail_eq_ok] at rest
          obtain ⟨types, ⟨named, typed, rfl⟩, source, written, equal⟩ := rest
          cases equal
          exact ⟨rfl, fun _ => ⟨named, typed, rfl⟩, written⟩
      | false =>
          simp only [wanted, Bool.false_eq_true, if_false, bind_eq_ok, orFail_eq_ok] at rest
          obtain ⟨types, -, source, written, equal⟩ := rest
          cases equal
          exact ⟨rfl, fun asked => absurd (wanted.symm.trans asked) (by decide), written⟩

/-! ### Places of parameters -/

/-- The way to a place in a table tree where a parameter is listed: into one of the children or
parents, or, at the end, to a position in the record condition of the table. -/
inductive ParamSite where
  | child (index : Nat) (inner : ParamSite)
  | parent (index : Nat) (inner : ParamSite)
  | own (position : Nat)
deriving DecidableEq, Repr

/-- The order in which the places of a tree are visited: the children one after the other, then the
parents, then the table's own condition. -/
def ParamSite.Before : ParamSite → ParamSite → Prop
  | .child i s, .child j t => i < j ∨ i = j ∧ s.Before t
  | .child _ _, .parent _ _ => True
  | .child _ _, .own _ => True
  | .parent _ _, .child _ _ => False
  | .parent i s, .parent j t => i < j ∨ i = j ∧ s.Before t
  | .parent _ _, .own _ => True
  | .own _, .child _ _ => False
  | .own _, .parent _ _ => False
  | .own i, .own j => i < j

/-- The parameter that is listed at a place of a table tree. -/
inductive TableSpec.ListsAt : TableSpec → ParamSite → String → Prop
  | child {spec : TableSpec} {i : Nat} {child : ChildTable} {site : ParamSite} {name : String}
      (here : spec.children[i]? = some child) (inner : ListsAt child.spec site name) :
      ListsAt spec (.child i site) name
  | parent {spec : TableSpec} {i : Nat} {parent : ParentTable} {site : ParamSite} {name : String}
      (here : spec.parents[i]? = some parent) (inner : ListsAt parent.spec site name) :
      ListsAt spec (.parent i site) name
  | own {spec : TableSpec} {i : Nat} {condition : RecordCondition} {name : String}
      (here : spec.condition = some condition) (listed : condition.paramNames[i]? = some name) :
      ListsAt spec (.own i) name

/-- A parameter is listed at some place just if the record condition of some table of the tree
lists it. -/
theorem TableSpec.exists_listsAt_iff {spec : TableSpec} {name : String} :
    (∃ site, spec.ListsAt site name) ↔
      ∃ table, spec.Node table ∧ ∃ condition ∈ table.condition, name ∈ condition.paramNames := by
  constructor
  · rintro ⟨site, listed⟩
    induction listed with
    | child here inner ih =>
        obtain ⟨table, node, listed⟩ := ih
        exact ⟨table, (Node.root.child (List.mem_of_getElem? here)).trans node, listed⟩
    | parent here inner ih =>
        obtain ⟨table, node, listed⟩ := ih
        exact ⟨table, (Node.root.parent (List.mem_of_getElem? here)).trans node, listed⟩
    | own here listed => exact ⟨_, .root, _, here, List.mem_of_getElem? listed⟩
  · rintro ⟨table, node, condition, here, listed⟩
    induction spec using TableSpec.tree_induction with
    | step spec ofParent ofChild =>
        rcases node.cases_root with rfl | ⟨parent, member, inner⟩ | ⟨child, member, inner⟩
        · obtain ⟨i, position⟩ := List.mem_iff_getElem?.mp listed
          exact ⟨.own i, .own here position⟩
        · obtain ⟨site, found⟩ := ofParent parent member inner
          obtain ⟨i, position⟩ := List.mem_iff_getElem?.mp member
          exact ⟨.parent i site, .parent position found⟩
        · obtain ⟨site, found⟩ := ofChild child member inner
          obtain ⟨i, position⟩ := List.mem_iff_getElem?.mp member
          exact ⟨.child i site, .child position found⟩

/-! ### The list of places -/

namespace ParamSite

/-- The places of the names in a record condition. -/
def owns (names : List String) : List (ParamSite × String) :=
  names.zipIdx.map fun (name, i) => (.own i, name)

/-- The places of several trees, each entered by its index. -/
def under (enter : Nat → ParamSite → ParamSite) (lists : List (List (ParamSite × String))) :
    List (ParamSite × String) :=
  lists.zipIdx.flatMap fun (list, i) => list.map fun (site, name) => (enter i site, name)

end ParamSite

mutual

/-- The places of a table tree with the parameters that are listed there, in the order of the
walk. -/
def TableSpec.paramSites : TableSpec → List (ParamSite × String)
  | ⟨_, _, _, parents, children, condition, _⟩ =>
    ParamSite.under .child (ChildTable.paramSites children)
      ++ ParamSite.under .parent (ParentTable.paramSites parents)
      ++ ParamSite.owns ((condition.map (·.paramNames)).getD [])
termination_by structural spec => spec

/-- The places of each of some parents. -/
def ParentTable.paramSites : List ParentTable → List (List (ParamSite × String))
  | [] => []
  | ⟨_, spec⟩ :: parents => spec.paramSites :: ParentTable.paramSites parents
termination_by structural parents => parents

/-- The places of each of some children. -/
def ChildTable.paramSites : List ChildTable → List (List (ParamSite × String))
  | [] => []
  | ⟨_, spec⟩ :: children => spec.paramSites :: ChildTable.paramSites children
termination_by structural children => children

end

theorem ParentTable.paramSites_eq_map (parents : List ParentTable) :
    ParentTable.paramSites parents = parents.map (·.spec.paramSites) := by
  induction parents with
  | nil => rfl
  | cons parent parents ih =>
      obtain ⟨link, spec⟩ := parent
      rw [ParentTable.paramSites, ih, List.map_cons]

theorem ChildTable.paramSites_eq_map (children : List ChildTable) :
    ChildTable.paramSites children = children.map (·.spec.paramSites) := by
  induction children with
  | nil => rfl
  | cons child children ih =>
      obtain ⟨link, spec⟩ := child
      rw [ChildTable.paramSites, ih, List.map_cons]

theorem ParentTable.paramNamesAll_eq_flatMap (parents : List ParentTable) :
    ParentTable.paramNamesAll parents = parents.flatMap (·.spec.paramNames) := by
  induction parents with
  | nil => rfl
  | cons parent parents ih =>
      obtain ⟨link, spec⟩ := parent
      rw [ParentTable.paramNamesAll, ih, List.flatMap_cons]

theorem ChildTable.paramNamesAll_eq_flatMap (children : List ChildTable) :
    ChildTable.paramNamesAll children = children.flatMap (·.spec.paramNames) := by
  induction children with
  | nil => rfl
  | cons child children ih =>
      obtain ⟨link, spec⟩ := child
      rw [ChildTable.paramNamesAll, ih, List.flatMap_cons]

namespace TableSpec

theorem paramSites_eq (spec : TableSpec) :
    spec.paramSites = ParamSite.under .child (spec.children.map (·.spec.paramSites)) ++
      ParamSite.under .parent (spec.parents.map (·.spec.paramSites)) ++
      ParamSite.owns ((spec.condition.map (·.paramNames)).getD []) := by
  rw [← ChildTable.paramSites_eq_map, ← ParentTable.paramSites_eq_map]
  obtain ⟨table, aliasName, fields, parents, children, condition, resultTypeName⟩ := spec
  rfl

theorem paramNames_eq (spec : TableSpec) :
    spec.paramNames = spec.children.flatMap (·.spec.paramNames) ++
      spec.parents.flatMap (·.spec.paramNames) ++
      (spec.condition.map (·.paramNames)).getD [] := by
  rw [← ChildTable.paramNamesAll_eq_flatMap, ← ParentTable.paramNamesAll_eq_flatMap]
  obtain ⟨table, aliasName, fields, parents, children, condition, resultTypeName⟩ := spec
  rfl

end TableSpec

/-! What is in the list: the names without their places, the places of each name, and their
order. -/

namespace ParamSite

theorem map_snd_owns (names : List String) : (owns names).map Prod.snd = names := by
  simp [owns, Function.comp_def]

theorem map_snd_under (enter : Nat → ParamSite → ParamSite)
    (lists : List (List (ParamSite × String))) :
    (under enter lists).map Prod.snd = lists.flatMap (·.map Prod.snd) := by
  have each : ∀ entry : List (ParamSite × String) × Nat,
      (entry.1.map fun place => (enter entry.2 place.1, place.2)).map Prod.snd =
        entry.1.map Prod.snd := by
    intro entry
    rw [List.map_map]
    rfl
  calc
    (under enter lists).map Prod.snd
      = lists.zipIdx.flatMap fun entry =>
          (entry.1.map fun place => (enter entry.2 place.1, place.2)).map Prod.snd :=
        List.map_flatMap ..
    _ = lists.zipIdx.flatMap fun entry => entry.1.map Prod.snd := by simp only [each]
    _ = (lists.zipIdx.map Prod.fst).flatMap (·.map Prod.snd) := (List.flatMap_map ..).symm
    _ = lists.flatMap (·.map Prod.snd) := by rw [List.zipIdx_map_fst]

theorem mem_owns {names : List String} {site : ParamSite} {name : String} :
    (site, name) ∈ owns names ↔ ∃ i, site = .own i ∧ names[i]? = some name := by
  simp only [owns, List.mem_map, Prod.exists, List.mem_zipIdx_iff_getElem?, Prod.mk.injEq]
  constructor
  · rintro ⟨other, i, position, rfl, rfl⟩
    exact ⟨i, rfl, position⟩
  · rintro ⟨i, rfl, position⟩
    exact ⟨name, i, position, rfl, rfl⟩

theorem mem_under {enter : Nat → ParamSite → ParamSite} {lists : List (List (ParamSite × String))}
    {site : ParamSite} {name : String} :
    (site, name) ∈ under enter lists ↔
      ∃ i list inner, lists[i]? = some list ∧ (inner, name) ∈ list ∧ site = enter i inner := by
  simp only [under, List.mem_flatMap, List.mem_map, Prod.exists, List.mem_zipIdx_iff_getElem?,
    Prod.mk.injEq]
  constructor
  · rintro ⟨list, i, position, inner, other, member, rfl, rfl⟩
    exact ⟨i, list, inner, position, member, rfl⟩
  · rintro ⟨i, list, inner, position, member, rfl⟩
    exact ⟨list, i, position, inner, name, member, rfl, rfl⟩

theorem pairwise_owns (names : List String) :
    (owns names).Pairwise fun earlier later => earlier.1.Before later.1 := by
  unfold owns
  rw [List.pairwise_map]
  exact zipIdx_pairwise_lt names 0

/-- Trees that are each in order are so together, if their places are in the order of the trees. -/
theorem pairwise_under {enter : Nat → ParamSite → ParamSite}
    (inside : ∀ i s t, (s.Before t) → (enter i s).Before (enter i t))
    (across : ∀ i j s t, i < j → (enter i s).Before (enter j t))
    {lists : List (List (ParamSite × String))}
    (each : ∀ list ∈ lists, list.Pairwise fun earlier later => earlier.1.Before later.1) :
    (under enter lists).Pairwise fun earlier later => earlier.1.Before later.1 := by
  unfold under
  rw [List.pairwise_flatMap]
  constructor
  · rintro ⟨list, i⟩ member
    rw [List.pairwise_map]
    exact (each list (List.fst_mem_of_mem_zipIdx member)).imp fun before => inside i _ _ before
  · refine (zipIdx_pairwise_lt lists 0).imp ?_
    rintro ⟨first, i⟩ ⟨second, j⟩ below earlier inFirst later inSecond
    obtain ⟨place, -, rfl⟩ := List.mem_map.mp inFirst
    obtain ⟨other, -, rfl⟩ := List.mem_map.mp inSecond
    exact across i j _ _ below

end ParamSite

namespace TableSpec

theorem map_snd_paramSites (spec : TableSpec) :
    spec.paramSites.map Prod.snd = spec.paramNames := by
  induction spec using TableSpec.tree_induction with
  | step spec ofParent ofChild =>
      rw [paramSites_eq, paramNames_eq, List.map_append, List.map_append, ParamSite.map_snd_under,
        ParamSite.map_snd_under, ParamSite.map_snd_owns, List.flatMap_map, List.flatMap_map,
        List.flatMap_congr ofChild, List.flatMap_congr ofParent]

theorem mem_paramSites {spec : TableSpec} {site : ParamSite} {name : String} :
    (site, name) ∈ spec.paramSites ↔ spec.ListsAt site name := by
  induction spec using TableSpec.tree_induction generalizing site with
  | step spec ofParent ofChild =>
      rw [paramSites_eq, List.mem_append, List.mem_append, ParamSite.mem_under,
        ParamSite.mem_under, ParamSite.mem_owns]
      simp only [List.getElem?_map, Option.map_eq_some_iff]
      constructor
      · rintro ((⟨i, -, inner, ⟨child, here, rfl⟩, member, rfl⟩ |
          ⟨i, -, inner, ⟨parent, here, rfl⟩, member, rfl⟩) | ⟨i, rfl, listed⟩)
        · exact .child here ((ofChild child (List.mem_of_getElem? here)).mp member)
        · exact .parent here ((ofParent parent (List.mem_of_getElem? here)).mp member)
        · cases here : spec.condition with
          | none => simp [here] at listed
          | some condition =>
              rw [here] at listed
              exact .own here listed
      · intro listed
        cases listed with
        | child here inner =>
            exact .inl (.inl ⟨_, _, _, ⟨_, here, rfl⟩,
              (ofChild _ (List.mem_of_getElem? here)).mpr inner, rfl⟩)
        | parent here inner =>
            exact .inl (.inr ⟨_, _, _, ⟨_, here, rfl⟩,
              (ofParent _ (List.mem_of_getElem? here)).mpr inner, rfl⟩)
        | own here listed =>
            rw [here]
            exact .inr ⟨_, rfl, listed⟩

/-- **The list is in the order of the walk.** -/
theorem pairwise_paramSites (spec : TableSpec) :
    spec.paramSites.Pairwise fun earlier later => earlier.1.Before later.1 := by
  induction spec using TableSpec.tree_induction with
  | step spec ofParent ofChild =>
      have children : (ParamSite.under .child (spec.children.map (·.spec.paramSites))).Pairwise
          fun earlier later => earlier.1.Before later.1 := by
        refine ParamSite.pairwise_under ?_ ?_ (by simpa using ofChild)
        · exact fun i s t before => Or.inr ⟨rfl, before⟩
        · exact fun i j s t below => Or.inl below
      have parents : (ParamSite.under .parent (spec.parents.map (·.spec.paramSites))).Pairwise
          fun earlier later => earlier.1.Before later.1 := by
        refine ParamSite.pairwise_under ?_ ?_ (by simpa using ofParent)
        · exact fun i s t before => Or.inr ⟨rfl, before⟩
        · exact fun i j s t below => Or.inl below
      rw [paramSites_eq, List.pairwise_append, List.pairwise_append]
      refine ⟨⟨children, parents, ?_⟩, ParamSite.pairwise_owns _, ?_⟩
      · rintro ⟨earlier, first⟩ inChild ⟨later, second⟩ inParent
        obtain ⟨i, -, inner, -, -, rfl⟩ := ParamSite.mem_under.mp inChild
        obtain ⟨j, -, other, -, -, rfl⟩ := ParamSite.mem_under.mp inParent
        trivial
      · rintro ⟨earlier, first⟩ inside ⟨later, second⟩ own
        obtain ⟨j, rfl, -⟩ := ParamSite.mem_owns.mp own
        rcases List.mem_append.mp inside with inChild | inParent
        · obtain ⟨i, -, inner, -, -, rfl⟩ := ParamSite.mem_under.mp inChild
          trivial
        · obtain ⟨i, -, inner, -, -, rfl⟩ := ParamSite.mem_under.mp inParent
          trivial

end TableSpec

/-! ### First places -/

/-- To drop repetitions keeps the order of first places: of two names, each place of the later one
comes after some place of the earlier one. -/
theorem pairwise_eraseDups_of_sites {α σ : Type} [BEq α] [LawfulBEq α] {R : σ → σ → Prop}
    (sites : List (σ × α)) (ordered : sites.Pairwise fun earlier later => R earlier.1 later.1) :
    (sites.map Prod.snd).eraseDups.Pairwise fun first second =>
      ∀ later, (later, second) ∈ sites → ∃ earlier, (earlier, first) ∈ sites ∧ R earlier later := by
  induction sites using List.reverseRecOn with
  | nil => exact List.Pairwise.nil
  | append_singleton sites last ih =>
      obtain ⟨site, name⟩ := last
      obtain ⟨inOrder, -, atEnd⟩ := List.pairwise_append.mp ordered
      -- A name that has been met has a place before the last one.
      have before : ∀ met ∈ (sites.map Prod.snd).eraseDups,
          ∃ earlier, (earlier, met) ∈ sites ∧ R earlier site := by
        intro met member
        obtain ⟨⟨earlier, _⟩, found, rfl⟩ := List.mem_map.mp (List.mem_eraseDups.mp member)
        exact ⟨earlier, found, atEnd _ found _ (List.mem_singleton_self _)⟩
      have old : (sites.map Prod.snd).eraseDups.Pairwise fun first second =>
          ∀ later, (later, second) ∈ sites ++ [(site, name)] →
            ∃ earlier, (earlier, first) ∈ sites ++ [(site, name)] ∧ R earlier later := by
        refine (ih inOrder).imp_of_mem ?_
        intro first second inFirst inSecond places later member
        rcases List.mem_append.mp member with older | newest
        · obtain ⟨earlier, found, related⟩ := places later older
          exact ⟨earlier, List.mem_append_left _ found, related⟩
        · obtain ⟨earlier, found, related⟩ := before first inFirst
          cases List.mem_singleton.mp newest
          exact ⟨earlier, List.mem_append_left _ found, related⟩
      rw [List.map_append]
      by_cases met : name ∈ sites.map Prod.snd
      · have same := eraseDups_concat_of_mem met
        change (sites.map Prod.snd ++ [name]).eraseDups.Pairwise _
        rw [same]
        exact old
      · have added := eraseDups_concat_of_not_mem met
        change (sites.map Prod.snd ++ [name]).eraseDups.Pairwise _
        rw [added, List.pairwise_append]
        refine ⟨old, List.pairwise_singleton _ _, ?_⟩
        intro first inFirst second isLast later member
        cases List.mem_singleton.mp isLast
        rcases List.mem_append.mp member with older | newest
        · exact absurd (List.mem_map_of_mem older) met
        · obtain ⟨earlier, found, related⟩ := before first inFirst
          cases List.mem_singleton.mp newest
          exact ⟨earlier, List.mem_append_left _ found, related⟩

/-- **Parameters are neither lost nor repeated.** The parameters of a compiled query are all
different. They are those that the record condition of some table of the tree lists, and they come
in the order of their first places in the walk: wherever a parameter is listed, the ones before it
have been listed before. -/
theorem parameters_are_complete_and_ordered (compiler : GroupCompiler) (query : Query)
    {compiled : CompiledQuery} (accepted : compiler.compileQuery query = .ok compiled) :
    compiled.paramNames.Nodup ∧
    (∀ name, name ∈ compiled.paramNames ↔
      ∃ table, query.table.Node table ∧
        ∃ condition ∈ table.condition, name ∈ condition.paramNames) ∧
    compiled.paramNames.Pairwise fun first second =>
      ∀ later, query.table.ListsAt later second →
        ∃ earlier, query.table.ListsAt earlier first ∧ earlier.Before later := by
  have names : compiled.paramNames = (query.table.paramSites.map Prod.snd).eraseDups := by
    rw [(compiledFrom_of_compileQuery accepted).paramNames, TableSpec.map_snd_paramSites]
    rfl
  refine ⟨?_, ?_, ?_⟩
  · rw [names]
    exact nodup_eraseDups _
  · intro name
    rw [names, List.mem_eraseDups, ← TableSpec.exists_listsAt_iff, List.mem_map]
    constructor
    · rintro ⟨⟨site, _⟩, member, rfl⟩
      exact ⟨site, TableSpec.mem_paramSites.mp member⟩
    · rintro ⟨site, listed⟩
      exact ⟨(site, name), TableSpec.mem_paramSites.mpr listed, rfl⟩
  · rw [names]
    have ordered := pairwise_eraseDups_of_sites _ query.table.pairwise_paramSites
    simpa only [TableSpec.mem_paramSites] using ordered

/-! ### Parameters of the pharmacy -/

namespace Pharmacy

/-- A table with a record condition on some parameters. -/
def restricted (names : List String) (spec : TableSpec) : TableSpec :=
  { spec with condition := some ⟨"$$.id > 0", names, none⟩ }

/-- Drugs that are chosen by parameters at every kind of table, some of them used repeatedly. -/
def restrictedDrugs : TableSpec :=
  restricted ["drug", "since"] ⟨"drug", none, [.named "name"],
    [inlineParent none (restricted ["cas"] compounds),
      referencedParent "registered_by" (restricted ["analyst", "drug"] analysts)],
    [children "advisories" false (restricted ["since"] ⟨"advisory", none, [.named "text"],
      [inlineParent none
        (restricted ["kind"] ⟨"advisory_type", none, [.named "name"], [], [], none, none⟩)],
      [], none, none⟩)],
    none, none⟩

/-- The chosen drugs as JSON objects. -/
def restrictedQuery : Query := { drugQuery with table := restrictedDrugs, representations := none }

/-- A compiler without source options. -/
def plainCompiler : GroupCompiler :=
  ⟨lowerCase, ⟨some schema, some .asInDatabase, [], []⟩, ⟨.postgres, [], true⟩, none⟩

end Pharmacy

/-- Parameters of a child's parent, of the child, of both kinds of parents, and of the drugs
themselves. The last two are among those met before. -/
theorem restrictedQuery_parameters :
    ∃ compiled, Pharmacy.plainCompiler.compileQuery Pharmacy.restrictedQuery = .ok compiled ∧
      compiled.paramNames = ["kind", "since", "cas", "analyst", "drug"] ∧
      compiled.paramNames.Pairwise fun first second =>
        ∀ later, Pharmacy.restrictedDrugs.ListsAt later second →
          ∃ earlier, Pharmacy.restrictedDrugs.ListsAt earlier first ∧ earlier.Before later := by
  have run : (Pharmacy.plainCompiler.compileQuery Pharmacy.restrictedQuery).map (·.paramNames) =
      .ok ["kind", "since", "cas", "analyst", "drug"] := by
    decide +kernel
  obtain ⟨compiled, accepted, names⟩ := map_eq_ok.mp run
  exact ⟨compiled, accepted, names,
    (parameters_are_complete_and_ordered Pharmacy.plainCompiler Pharmacy.restrictedQuery
      accepted).2.2⟩

end NestedQuery
