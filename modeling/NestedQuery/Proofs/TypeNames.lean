import NestedQuery.Proofs.FreshName
import NestedQuery.Proofs.Resolution
import NestedQuery.ResultType.Naming

/-!
# How result types are named

The types of a list are named one after the other, by means of three things that grow together: the
declarations, the index of their positions, and the names in use. What they say of each other is an
invariant of the loop. From it the outcome can be read without the loop: what is declared are the
different types in their order, and the names tell them apart.

## Main Definitions

* `NamedTypes.Indexed`: the index has the positions of the declared types
* `NamedTypes.NameRule`: the name that a type gets
* `NamedTypes.Declares`: the invariant of the loop
* `NamedTypes.SharesName`: a name that is asked for by different types
* `NamedTypes.Names`: a list of types and what it is named to

## Main Results

* `NamedTypes.Indexed.nameOf?_eq_search`: to look a type up is to search for it
* `NamedTypes.add_cases`: what a step of the loop does
* `NamedTypes.Declares.of_add`, `NamedTypes.Declares.of_addAll`: a step and a run keep the invariant
* `assign_names_types`: when types can be named, and how they are

## Design Notes

All names that the specification gives are taken from the start, so an automatic name is never one
of them. That is why a conflict is always between two types that ask for the same name.
-/

namespace NestedQuery

/-! ### The index -/

namespace Buckets

theorem positions_cons (entry : BucketKey × List Nat) (buckets : Buckets) (key : BucketKey) :
    positions (entry :: buckets) key =
      if entry.1 = key then entry.2 else positions buckets key := by
  unfold positions
  rw [List.lookup_cons]
  by_cases same : entry.1 = key
  · simp [same]
  · have differs : (key == entry.1) = false := by simpa using Ne.symm same
    simp [same, differs]

/-- A position that is added to those for a key is the last one of them. -/
theorem positions_push (buckets : Buckets) (key : BucketKey) (position : Nat) (other : BucketKey) :
    (buckets.push key position).positions other =
      buckets.positions other ++ if key = other then [position] else [] := by
  induction buckets with
  | nil =>
      rw [push, positions_cons]
      by_cases same : key = other
      · simp [same, positions]
      · simp [same, positions]
  | cons entry buckets ih =>
      obtain ⟨here, ps⟩ := entry
      rw [push]
      by_cases same : here = key
      · subst same
        rw [if_pos rfl, positions_cons, positions_cons]
        by_cases wanted : here = other
        · simp [wanted]
        · simp [wanted]
      · rw [if_neg same, positions_cons, positions_cons, ih]
        by_cases wanted : here = other
        · have apart : key ≠ other := fun equal => same (wanted.trans equal.symm)
          simp [wanted, apart]
        · simp [wanted]

end Buckets

namespace NamedTypes

/-- The positions of the types that have a key. -/
def positionsOf (entries : List (String × ResultType)) (key : BucketKey) : List Nat :=
  (entries.zipIdx.filter (fun entry => entry.1.2.bucketKey = key)).map Prod.snd

theorem positionsOf_concat (entries : List (String × ResultType)) (entry : String × ResultType)
    (key : BucketKey) :
    positionsOf (entries ++ [entry]) key =
      positionsOf entries key ++ if entry.2.bucketKey = key then [entries.length] else [] := by
  unfold positionsOf
  rw [List.zipIdx_append, List.filter_append, List.map_append]
  by_cases same : entry.2.bucketKey = key
  · simp [same]
  · simp [same]

/-- The entries at the positions of a key are those whose types have the key. -/
theorem filterMap_positionsOf (entries : List (String × ResultType)) (key : BucketKey) :
    (positionsOf entries key).filterMap (entries[·]?) =
      entries.filter (fun entry => entry.2.bucketKey = key) := by
  have found : ∀ entry ∈ entries.zipIdx.filter (fun entry => entry.1.2.bucketKey = key),
      entries[entry.2]? = some entry.1 := by
    rintro ⟨entry, position⟩ member
    exact List.mem_zipIdx_iff_getElem?.mp (List.mem_filter.mp member).1
  calc
    (positionsOf entries key).filterMap (entries[·]?)
      = (entries.zipIdx.filter (fun entry => entry.1.2.bucketKey = key)).filterMap
          (fun entry => entries[entry.2]?) := List.filterMap_map ..
    _ = (entries.zipIdx.filter (fun entry => entry.1.2.bucketKey = key)).filterMap
          (fun entry => some entry.1) := List.filterMap_congr found
    _ = (entries.zipIdx.filter (fun entry => entry.1.2.bucketKey = key)).map Prod.fst :=
          congrFun List.filterMap_eq_map _
    _ = (entries.zipIdx.map Prod.fst).filter (fun entry => entry.2.bucketKey = key) := by
          rw [List.filter_map]
          rfl
    _ = entries.filter (fun entry => entry.2.bucketKey = key) := by rw [List.zipIdx_map_fst]

/-- The index has, for each key, the positions of the types with this key. -/
def Indexed (named : NamedTypes) : Prop :=
  ∀ key, named.buckets.positions key = positionsOf named.entries key

theorem indexed_empty : empty.Indexed := fun _ => rfl

theorem Indexed.declare {named : NamedTypes} (indexed : named.Indexed) (name : String)
    (type : ResultType) : (named.declare name type).Indexed := by
  intro key
  unfold NamedTypes.declare
  rw [Buckets.positions_push, indexed key, positionsOf_concat]

/-- The name of a type, by comparing it with one declared type after the other. -/
def search (entries : List (String × ResultType)) (type : ResultType) : Option String :=
  (entries.find? (fun entry => entry.2 == type)).map Prod.fst

/-- **To look a type up is to search for it.** Types with another key need not be looked at, because
equal types have equal keys. -/
theorem Indexed.nameOf?_eq_search {named : NamedTypes} (indexed : named.Indexed)
    (type : ResultType) : named.nameOf? type = search named.entries type := by
  have sameKey : ∀ entry : String × ResultType,
      (decide (decide (entry.2.bucketKey = type.bucketKey) = true ∧ (entry.2 == type) = true)) =
        (entry.2 == type) := by
    intro entry
    by_cases equal : entry.2 = type
    · simp [equal]
    · simp [equal]
  unfold nameOf? search
  rw [indexed type.bucketKey, filterMap_positionsOf, List.find?_filter]
  simp only [sameKey]

/-- A search finds a name just if there are declarations of the type. -/
theorem isSome_search {entries : List (String × ResultType)} {type : ResultType} :
    (search entries type).isSome = true ↔ type ∈ entries.map Prod.snd := by
  unfold search
  rw [Option.isSome_map, List.find?_isSome]
  simp

/-- If each type is declared once, then a search finds the name of its declaration. -/
theorem search_eq_some {entries : List (String × ResultType)} {type : ResultType} {name : String}
    (once : (entries.map Prod.snd).Nodup) :
    search entries type = some name ↔ (name, type) ∈ entries := by
  unfold search
  rw [Option.map_eq_some_iff]
  constructor
  · rintro ⟨⟨found, declared⟩, first, rfl⟩
    have equal : declared = type := by simpa using List.find?_some first
    rw [← equal]
    exact List.mem_of_find?_eq_some first
  · intro member
    have some : (entries.find? (fun entry => entry.2 == type)).isSome := by
      rw [List.find?_isSome]
      exact ⟨_, member, by simp⟩
    obtain ⟨⟨found, declared⟩, first⟩ := Option.isSome_iff_exists.mp some
    have equal : declared = type := by simpa using List.find?_some first
    have same : (found, declared) = (name, type) :=
      List.inj_on_of_nodup_map once (List.mem_of_find?_eq_some first) member equal
    exact ⟨_, first, congrArg Prod.fst same⟩

/-! ### The loop -/

/-- The names that the specification gives to the types of a list. -/
def givenNames (types : List ResultType) : List String := types.filterMap (·.typeName)

/-- The name that a type gets, if some names are given in the specification and some are in use:
its own one if it is given one, and else the first free one made from the name of its table. -/
inductive NameRule (given used : List String) (type : ResultType) : String → Prop
  | own {name : String} (asked : type.typeName = some name) : NameRule given used type name
  | automatic {name : String} (unasked : type.typeName = none)
      (first : Text.FirstFree (Text.upperCamel type.relation.name) "_" (given ++ used) name) :
      NameRule given used type name

/-- What has been declared when some types of a list have been met, given the names that are asked
for in the whole list: the different ones of these types, in their order, each with its name. -/
structure Declares (given : List String) (met : List ResultType) (taken : List String)
    (named : NamedTypes) : Prop where
  types : named.entries.map Prod.snd = met.eraseDups
  indexed : named.Indexed
  distinct : named.names.Nodup
  taken : ∀ name, name ∈ taken ↔ name ∈ given ++ named.names
  chosen : ∀ before name type after, named.entries = before ++ (name, type) :: after →
    NameRule given (before.map Prod.fst) type name

variable {query : String} {given taken : List String} {met : List ResultType}
  {named : NamedTypes} {type : ResultType}

/-- What a step of the loop does: nothing for a type that has been met, and otherwise it declares
the type, unless the type asks for a name in use. -/
inductive AddCases (query : String) (taken : List String) (met : List ResultType)
    (named : NamedTypes) (type : ResultType) : Except SpecError (List String × NamedTypes) → Prop
  | met (before : type ∈ met) : AddCases query taken met named type (.ok (taken, named))
  | conflict {name : String} (new : type ∉ met) (asked : type.typeName = some name)
      (used : name ∈ named.names) :
      AddCases query taken met named type
        (.error ⟨Location.root query, .conflictingResultTypeName name⟩)
  | own {name : String} (new : type ∉ met) (asked : type.typeName = some name)
      (unused : name ∉ named.names) :
      AddCases query taken met named type (.ok (name :: taken, named.declare name type))
  | automatic {name : String} (new : type ∉ met) (unasked : type.typeName = none)
      (first : Text.FirstFree (Text.upperCamel type.relation.name) "_" taken name) :
      AddCases query taken met named type (.ok (name :: taken, named.declare name type))

theorem Declares.isSome_nameOf? (declares : Declares given met taken named) :
    (named.nameOf? type).isSome = true ↔ type ∈ met := by
  rw [declares.indexed.nameOf?_eq_search, isSome_search, declares.types, List.mem_eraseDups]

theorem add_cases (declares : Declares given met taken named) (query : String)
    (type : ResultType) : AddCases query taken met named type (add query taken named type) := by
  unfold add
  by_cases before : type ∈ met
  · rw [if_pos (declares.isSome_nameOf?.mpr before)]
    exact .met before
  · rw [if_neg fun found => before (declares.isSome_nameOf?.mp found)]
    cases asked : type.typeName with
    | none => exact .automatic before asked (Text.freshName_firstFree _ _ _)
    | some name =>
        by_cases used : name ∈ named.names
        · have contained : named.names.contains name = true := List.contains_iff_mem.mpr used
          dsimp only
          rw [if_pos contained]
          exact .conflict before asked used
        · have missing : ¬ named.names.contains name = true :=
            fun found => used (List.contains_iff_mem.mp found)
          dsimp only
          rw [if_neg missing]
          exact .own before asked used

theorem names_declare (named : NamedTypes) (name : String) (type : ResultType) :
    (named.declare name type).names = named.names ++ [name] := by
  unfold names declare
  rw [List.map_append]
  rfl

/-- The invariant after a type has been declared that had not been met, under a name not in use that
keeps to the rule. -/
theorem Declares.declare (declares : Declares given met taken named) (new : type ∉ met)
    {name : String} (unused : name ∉ named.names) (rule : NameRule given named.names type name) :
    Declares given (met ++ [type]) (name :: taken) (named.declare name type) where
  types := by
    rw [eraseDups_concat_of_not_mem new, ← declares.types]
    unfold NamedTypes.declare
    rw [List.map_append]
    rfl
  indexed := declares.indexed.declare name type
  distinct := by
    rw [names_declare, List.nodup_append]
    refine ⟨declares.distinct, List.nodup_singleton name, ?_⟩
    rintro used inUse other last rfl
    exact unused (List.mem_singleton.mp last ▸ inUse)
  taken := by
    intro other
    rw [names_declare, List.mem_cons, declares.taken other]
    simp only [List.mem_append, List.mem_singleton]
    tauto
  chosen := by
    -- The declaration is one of the earlier ones, or else the last one.
    intro before found declared after split
    unfold NamedTypes.declare at split
    rcases List.eq_nil_or_concat after with rfl | ⟨others, last, rfl⟩
    · obtain ⟨rfl, same⟩ := List.append_inj' split rfl
      cases same
      exact rule
    · have shorter : named.entries = before ++ (found, declared) :: others := by
        rw [List.concat_eq_append, ← List.cons_append, ← List.append_assoc] at split
        exact (List.append_inj' split rfl).1
      exact declares.chosen before found declared others shorter

/-- A name that is given in the specification is in use only for a type that asks for it. -/
theorem Declares.asked_of_mem (declares : Declares given met taken named) {name : String}
    (asked : name ∈ given) (used : name ∈ named.names) :
    ∃ other ∈ met, other.typeName = some name ∧ (name, other) ∈ named.entries := by
  obtain ⟨⟨found, other⟩, member, rfl⟩ := List.mem_map.mp used
  have inMet : other ∈ met := by
    rw [← List.mem_eraseDups, ← declares.types]
    exact List.mem_map_of_mem member
  obtain ⟨before, after, split⟩ := List.append_of_mem member
  refine ⟨other, inMet, ?_, member⟩
  cases declares.chosen before found other after split with
  | own own => exact own
  | automatic _ first => exact absurd (List.mem_append_left _ asked) first.not_mem

/-- **A step keeps the invariant.** -/
theorem Declares.of_add (declares : Declares given met taken named) {taken' : List String}
    {named' : NamedTypes} (added : add query taken named type = .ok (taken', named')) :
    Declares given (met ++ [type]) taken' named' := by
  have step := add_cases declares query type
  rw [added] at step
  cases step with
  | met before =>
      refine ⟨?_, declares.indexed, declares.distinct, declares.taken, declares.chosen⟩
      rw [eraseDups_concat_of_mem before, declares.types]
  | own new asked unused => exact declares.declare new unused (.own asked)
  | automatic new unasked first =>
      have free := first.not_mem
      refine declares.declare new (fun used => free ?_) (.automatic unasked ?_)
      · exact (declares.taken _).mpr (List.mem_append_right _ used)
      · exact first.congr declares.taken

/-- **A run keeps the invariant.** -/
theorem Declares.of_addAll (declares : Declares given met taken named) {types : List ResultType}
    {named' : NamedTypes} (added : addAll query taken named types = .ok named') :
    ∃ taken', Declares given (met ++ types) taken' named' := by
  induction types generalizing met taken named with
  | nil =>
      cases added
      rw [List.append_nil]
      exact ⟨taken, declares⟩
  | cons type types ih =>
      rw [addAll] at added
      cases step : add query taken named type with
      | error error =>
          rw [step] at added
          cases added
      | ok state =>
          obtain ⟨taken', named'⟩ := state
          rw [step] at added
          have rest := ih (declares.of_add step) added
          rwa [List.append_assoc] at rest

/-! ### Conflicts -/

/-- Different types of a list ask for the name. -/
def SharesName (types : List ResultType) (name : String) : Prop :=
  ∃ first ∈ types, ∃ second ∈ types,
    first ≠ second ∧ first.typeName = some name ∧ second.typeName = some name

/-- The first step that fails meets a type that asks for the same name as an earlier one. -/
theorem Declares.conflict_of_addAll (declares : Declares given met taken named)
    {types : List ResultType} (asked : ∀ type ∈ types, ∀ name ∈ type.typeName, name ∈ given)
    {error : SpecError} (failed : addAll query taken named types = .error error) :
    ∃ name, SharesName (met ++ types) name ∧
      error = ⟨Location.root query, .conflictingResultTypeName name⟩ := by
  induction types generalizing met taken named with
  | nil => cases failed
  | cons type types ih =>
      rw [addAll] at failed
      cases step : add query taken named type with
      | ok state =>
          obtain ⟨taken', named'⟩ := state
          rw [step] at failed
          have rest := ih (declares.of_add step)
            (fun later member => asked later (List.mem_cons_of_mem _ member)) failed
          rwa [List.append_assoc] at rest
      | error fault =>
          rw [step] at failed
          cases failed
          have cases := add_cases declares query type
          rw [step] at cases
          cases cases with
          | @conflict name new own used =>
              have isGiven := asked type List.mem_cons_self name own
              obtain ⟨other, earlier, same, -⟩ := declares.asked_of_mem isGiven used
              have differs : other ≠ type := fun equal => new (equal ▸ earlier)
              exact ⟨name, ⟨other, List.mem_append_left _ earlier, type,
                List.mem_append_right _ List.mem_cons_self, differs, same, own⟩, rfl⟩

theorem mem_givenNames {types : List ResultType} {name : String} :
    name ∈ givenNames types ↔ ∃ type ∈ types, type.typeName = some name := by
  rw [givenNames, List.mem_filterMap]

theorem declares_empty (given : List String) : Declares given [] given empty where
  types := rfl
  indexed := indexed_empty
  distinct := List.nodup_nil
  taken := by simp [empty, names]
  chosen := by simp [empty]

/-! ### Lists of types -/

/-- What a list of types is named to. -/
structure Names (types : List ResultType) (named : NamedTypes) : Prop where
  /-- The types without later repetitions are declared, in their order. -/
  declared : named.entries.map Prod.snd = types.eraseDups
  distinct : named.names.Nodup
  own : ∀ name type, (name, type) ∈ named.entries → ∀ asked, type.typeName = some asked →
    name = asked
  /-- An automatic name avoids those that are given anywhere, and those declared before. -/
  automatic : ∀ before name type after, named.entries = before ++ (name, type) :: after →
    type.typeName = none →
      Text.FirstFree (Text.upperCamel type.relation.name) "_"
        (givenNames types ++ before.map Prod.fst) name
  /-- Any type whatsoever is looked up as if by comparing it with all that are declared. -/
  lookup : ∀ type, named.nameOf? type = search named.entries type
  nameOf : ∀ type name, named.nameOf? type = some name ↔ (name, type) ∈ named.entries
  apart : ∀ first ∈ types, ∀ second ∈ types,
    named.nameOf? first = named.nameOf? second ↔ first = second

theorem Declares.names (declares : Declares (givenNames met) met taken named) :
    Names met named := by
  have once : (named.entries.map Prod.snd).Nodup := by
    rw [declares.types]
    exact nodup_eraseDups met
  have found : ∀ type name, named.nameOf? type = some name ↔ (name, type) ∈ named.entries := by
    intro type name
    rw [declares.indexed.nameOf?_eq_search, search_eq_some once]
  refine ⟨declares.types, declares.distinct, ?_, ?_, declares.indexed.nameOf?_eq_search, found, ?_⟩
  · intro name type member asked own
    obtain ⟨before, after, split⟩ := List.append_of_mem member
    cases declares.chosen before name type after split with
    | own same => exact Option.some.inj (same.symm.trans own)
    | automatic unasked _ => rw [unasked] at own; cases own
  · intro before name type after split unasked
    cases declares.chosen before name type after split with
    | own asked => rw [unasked] at asked; cases asked
    | automatic _ first => exact first
  · intro first inFirst second _
    constructor
    · intro same
      obtain ⟨name, known⟩ := Option.isSome_iff_exists.mp (declares.isSome_nameOf?.mpr inFirst)
      have left := (found first name).mp known
      have right := (found second name).mp (same ▸ known)
      exact congrArg Prod.snd (List.inj_on_of_nodup_map declares.distinct left right rfl)
    · rintro rfl
      rfl

theorem Names.exists_entry {types : List ResultType} (names : Names types named)
    {type : ResultType} (listed : type ∈ types) : ∃ name, (name, type) ∈ named.entries := by
  rw [← List.mem_eraseDups, ← names.declared] at listed
  obtain ⟨⟨name, declared⟩, member, rfl⟩ := List.mem_map.mp listed
  exact ⟨name, member⟩

theorem Names.mem_of_entry {types : List ResultType} (names : Names types named) {name : String}
    {type : ResultType} (member : (name, type) ∈ named.entries) : type ∈ types := by
  rw [← List.mem_eraseDups, ← names.declared]
  exact List.mem_map_of_mem member

/-- Named types leave no name to different types. -/
theorem Names.not_sharesName {types : List ResultType} (names : Names types named)
    (name : String) : ¬ SharesName types name := by
  rintro ⟨first, inFirst, second, inSecond, differs, firstAsks, secondAsks⟩
  have declared : ∀ type ∈ types, type.typeName = some name → (name, type) ∈ named.entries := by
    intro type member asks
    obtain ⟨found, inEntries⟩ := names.exists_entry member
    rwa [names.own found type inEntries name asks] at inEntries
  have same := List.inj_on_of_nodup_map names.distinct (declared first inFirst firstAsks)
    (declared second inSecond secondAsks) rfl
  exact differs (congrArg Prod.snd same)

theorem names_of_assign {types : List ResultType} (assigned : assign query types = .ok named) :
    Names types named := by
  obtain ⟨taken, declares⟩ := (declares_empty (givenNames types)).of_addAll assigned
  exact declares.names

theorem conflict_of_assign {types : List ResultType} {error : SpecError}
    (failed : assign query types = .error error) :
    ∃ name, SharesName types name ∧
      error = ⟨Location.root query, .conflictingResultTypeName name⟩ := by
  refine (declares_empty (givenNames types)).conflict_of_addAll ?_ failed
  intro type member name asked
  exact mem_givenNames.mpr ⟨type, member, asked⟩

end NamedTypes

/-- **How result types are named.** To name the types of a list fails just if different types ask
for the same name, and the error then tells such a name. Otherwise each different type is declared
once, where it is first met, under a name of its own: the one it asks for, or the first free one
made from the name of its table. -/
theorem assign_names_types (query : String) (types : List ResultType) :
    ((∃ error, NamedTypes.assign query types = .error error) ↔
      ∃ name, NamedTypes.SharesName types name) ∧
    (∀ error, NamedTypes.assign query types = .error error →
      ∃ name, NamedTypes.SharesName types name ∧
        error = ⟨Location.root query, .conflictingResultTypeName name⟩) ∧
    ∀ named, NamedTypes.assign query types = .ok named → NamedTypes.Names types named := by
  refine ⟨⟨?_, ?_⟩, fun _ => NamedTypes.conflict_of_assign, fun _ => NamedTypes.names_of_assign⟩
  · rintro ⟨error, failed⟩
    obtain ⟨name, shared, -⟩ := NamedTypes.conflict_of_assign failed
    exact ⟨name, shared⟩
  · rintro ⟨name, shared⟩
    cases assigned : NamedTypes.assign query types with
    | error error => exact ⟨error, rfl⟩
    | ok named => exact absurd shared ((NamedTypes.names_of_assign assigned).not_sharesName name)

/-- A type of a table of the pharmacy, whose properties are expressions. -/
def Pharmacy.typeOf (table : String) (typeName : Option String) (expressions : List String) :
    ResultType :=
  ⟨"drugs query", ⟨some "drugs", table⟩, typeName, false,
    expressions.map fun sql => .expression sql sql none⟩

/-- Three types of drugs, one of them met twice, beside a type of analysts that is given the name of
the first: the analysts keep it and the drugs are counted. Two types that ask for one name are
refused. -/
theorem pharmacy_types_are_named :
    (∃ named,
      NamedTypes.assign "drugs query"
        [Pharmacy.typeOf "drug" none ["a"], Pharmacy.typeOf "drug" none ["a", "b"],
          Pharmacy.typeOf "drug" none ["a"], Pharmacy.typeOf "analyst" (some "Drug") ["a"],
          Pharmacy.typeOf "drug" none ["c"]] = .ok named ∧
      named.names = ["Drug_1", "Drug_2", "Drug", "Drug_3"] ∧
      NamedTypes.Names
        [Pharmacy.typeOf "drug" none ["a"], Pharmacy.typeOf "drug" none ["a", "b"],
          Pharmacy.typeOf "drug" none ["a"], Pharmacy.typeOf "analyst" (some "Drug") ["a"],
          Pharmacy.typeOf "drug" none ["c"]] named) ∧
    ∃ error,
      NamedTypes.assign "drugs query"
        [Pharmacy.typeOf "drug" (some "Drug") ["a"],
          Pharmacy.typeOf "analyst" (some "Drug") ["a"]] = .error error := by
  have names : (NamedTypes.assign "drugs query"
      [Pharmacy.typeOf "drug" none ["a"], Pharmacy.typeOf "drug" none ["a", "b"],
        Pharmacy.typeOf "drug" none ["a"], Pharmacy.typeOf "analyst" (some "Drug") ["a"],
        Pharmacy.typeOf "drug" none ["c"]]).map (·.names) =
      .ok ["Drug_1", "Drug_2", "Drug", "Drug_3"] := by
    decide +kernel
  obtain ⟨named, assigned, equal⟩ := map_eq_ok.mp names
  refine ⟨⟨named, assigned, equal, (assign_names_types _ _).2.2 named assigned⟩, ?_⟩
  refine (assign_names_types _ _).1.mpr ⟨"Drug", Pharmacy.typeOf "drug" (some "Drug") ["a"], ?_⟩
  exact ⟨by simp, Pharmacy.typeOf "analyst" (some "Drug") ["a"], by simp, by decide, rfl, rfl⟩

end NestedQuery
