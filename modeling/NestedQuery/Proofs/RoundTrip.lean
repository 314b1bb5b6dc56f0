import NestedQuery.Proofs.Resolution
import NestedQuery.Schema.Codec
import NestedQuery.Source.Options

/-!
# Documents are read back

Whatever is written as JSON is read back as it was. The readers go by keys: a member is found if its
key is there once. Most records have an object of their own, but a parent or child shares one object
with its table, so that nothing is lost only because the keys of the link are not among those of the
table. Where a value has several forms, a reader takes the first one that fits, and it reads the
value only if all of its parts are readable; written values are.

## Main Definitions

* `TableSpec.keys`: the keys of a table
* `TableSpec.ReadsBack`: a table is read back from among the members of whatever holds it

## Main Results

* `Json.member_append_left`, `Json.member_append_right`: looking up a key in a shared object
* `ParentLink.keys_disjoint`, `ChildLink.keys_disjoint`: the keys of a link and those of a table
* `TableSpec.readsBack`: tables at every depth
* `documents_are_read_back`: the five kinds of documents
-/

namespace NestedQuery

namespace Json

/-! ### Simple values -/

@[simp] theorem asString_str (s : String) : asString (.str s) = some s := rfl

@[simp] theorem asBool_bool (b : Bool) : asBool (.bool b) = some b := rfl

@[simp] theorem asWord_ofWord (n : UInt32) : asWord (ofWord n) = some n := by
  have bound := n.toNat_lt
  have inRange : (0 : Int) ≤ n.toNat ∧ (n.toNat : Int) < 4294967296 := by omega
  simp [asWord, ofWord, inRange]

@[simp] theorem asSigned_ofSigned (n : Int32) : asSigned (ofSigned n) = some n := by
  have lower := n.le_toInt
  have upper := n.toInt_lt
  have inRange : -2147483648 ≤ n.toInt ∧ n.toInt < 2147483648 := by omega
  simp [asSigned, ofSigned, inRange]

section Parts

variable {read : Json → Option α} {write : α → Json}

theorem mapM_map_write {items : List α} (restored : ∀ a ∈ items, read (write a) = some a) :
    (items.map write).mapM read = some items := by
  induction items with
  | nil => rfl
  | cons a items ih =>
      have here := restored a List.mem_cons_self
      have rest := ih fun b member => restored b (List.mem_cons_of_mem _ member)
      simp [here, rest]

@[simp] theorem asList_ofList (restored : ∀ a, read (write a) = some a) (items : List α) :
    asList read (ofList write items) = some items :=
  mapM_map_write fun a _ => restored a

/-- Null stands for nothing, so it must not be read as a value. -/
theorem asNullable_ofOption (restored : ∀ a, read (write a) = some a)
    (notNull : read .null = none) (value : Option α) :
    asNullable read (ofOption write value) = some value := by
  cases value with
  | none => rfl
  | some a =>
      show asNullable read (write a) = some (some a)
      have here := restored a
      unfold asNullable
      split
      · rename_i isNull
        rw [isNull, notNull] at here
        cases here
      · rw [here]
        rfl

end Parts

@[simp] theorem asList_str (items : List String) :
    asList asString (ofList .str items) = some items :=
  asList_ofList asString_str items

@[simp] theorem asNullable_str (value : Option String) :
    asNullable asString (ofOption .str value) = some value :=
  asNullable_ofOption asString_str rfl value

@[simp] theorem asNullable_bool (value : Option Bool) :
    asNullable asBool (ofOption .bool value) = some value :=
  asNullable_ofOption asBool_bool rfl value

@[simp] theorem asNullable_ofWord (value : Option UInt32) :
    asNullable asWord (ofOption ofWord value) = some value :=
  asNullable_ofOption asWord_ofWord rfl value

@[simp] theorem asNullable_ofSigned (value : Option Int32) :
    asNullable asSigned (ofOption ofSigned value) = some value :=
  asNullable_ofOption asSigned_ofSigned rfl value

/-! ### Records -/

section Members

variable {members others : List (String × Json)} {key : String}

theorem filter_key_eq_nil (absent : key ∉ members.map Prod.fst) :
    members.filter (·.1 == key) = [] := by
  rw [List.filter_eq_nil_iff]
  intro entry inMembers isKey
  exact absent (List.mem_map.mpr ⟨entry, inMembers, by simpa using isKey⟩)

/-- A key is looked up in the first part of an object if the second part does not have it. -/
theorem member_append_left (absent : key ∉ others.map Prod.fst) :
    member (members ++ others) key = member members key := by
  rw [member, List.filter_append, filter_key_eq_nil absent, List.append_nil, member]

theorem member_append_right (absent : key ∉ members.map Prod.fst) :
    member (members ++ others) key = member others key := by
  rw [member, List.filter_append, filter_key_eq_nil absent, List.nil_append, member]

end Members

/-! ### Readable values -/

theorem itemsReadable_iff {items : List Json} :
    itemsReadable items = true ↔ ∀ item ∈ items, item.readable = true := by
  induction items with
  | nil => simp [itemsReadable]
  | cons item items ih => simp [itemsReadable, ih]

theorem membersReadable_iff {members : List (String × Json)} :
    membersReadable members = true ↔ ∀ entry ∈ members, entry.2.readable = true := by
  induction members with
  | nil => simp [membersReadable]
  | cons entry members ih =>
      obtain ⟨key, value⟩ := entry
      simp [membersReadable, ih]

theorem readable_ofOption {write : α → Json} (each : ∀ a, (write a).readable = true)
    (value : Option α) : (ofOption write value).readable = true := by
  cases value with
  | none => rfl
  | some a => exact each a

theorem readable_ofList {write : α → Json} (each : ∀ a, (write a).readable = true)
    (items : List α) : (ofList write items).readable = true := by
  rw [ofList, readable, itemsReadable_iff]
  intro item inItems
  obtain ⟨a, -, rfl⟩ := List.mem_map.mp inItems
  exact each a

@[simp] theorem readable_str (value : Option String) : (ofOption .str value).readable = true :=
  readable_ofOption (fun _ => rfl) value

@[simp] theorem readable_bool (value : Option Bool) : (ofOption .bool value).readable = true :=
  readable_ofOption (fun _ => rfl) value

@[simp] theorem readable_ofWord (value : Option UInt32) :
    (ofOption ofWord value).readable = true :=
  readable_ofOption (fun _ => rfl) value

@[simp] theorem readable_strs (items : List String) : (ofList .str items).readable = true :=
  readable_ofList (fun _ => rfl) items

end Json

open Json

/-! ### Schema snapshots -/

@[simp] theorem RelationId.ofJson?_toJson (id : RelationId) :
    RelationId.ofJson? id.toJson = some id := by
  obtain ⟨schema, name⟩ := id
  cases schema with
  | none => rfl
  | some schema => rfl

@[simp] theorem Field.ofJson?_toJson (field : Field) : Field.ofJson? field.toJson = some field := by
  simp [Field.ofJson?, Field.toJson, recordMembers, required, Json.optional, defaulted, member]

@[simp] theorem RelationKind.asEnum_label (kind : RelationKind) :
    asEnum RelationKind.names (.str kind.label) = some kind := by
  cases kind <;> rfl

@[simp] theorem Relation.ofJson?_toJson (relation : Relation) :
    Relation.ofJson? relation.toJson = some relation := by
  simp [Relation.ofJson?, Relation.toJson, recordMembers, required, member]

@[simp] theorem ForeignKey.columnOfJson?_columnToJson (pair : FieldPair) :
    ForeignKey.columnOfJson? (ForeignKey.columnToJson pair) = some pair := by
  simp [ForeignKey.columnOfJson?, ForeignKey.columnToJson, recordMembers, required, member]

@[simp] theorem ForeignKey.ofJson?_toJson (key : ForeignKey) :
    ForeignKey.ofJson? key.toJson = some key := by
  simp [ForeignKey.ofJson?, ForeignKey.toJson, recordMembers, required, Json.optional, defaulted,
    member]

@[simp] theorem CasePolicy.ofJson?_label (policy : CasePolicy) :
    CasePolicy.ofJson? (.str policy.label) = some policy := by
  cases policy <;> rfl

theorem Database.ofJson?_toJson (db : Database) : Database.ofJson? db.toJson = some db := by
  simp [Database.ofJson?, Database.toJson, recordMembers, required, member]

/-! ### Source options -/

@[simp] theorem Language.asEnum_label (language : Language) :
    asEnum Language.names (.str language.label) = some language := by
  cases language <;> rfl

theorem setEntry_of_not_mem {key value : String} {entries : List (String × String)}
    (new : key ∉ entries.map Prod.fst) :
    setEntry key value entries = entries ++ [(key, value)] := by
  induction entries with
  | nil => rfl
  | cons entry entries ih =>
      rw [List.map_cons, List.mem_cons, not_or] at new
      have differs : ¬ entry.1 = key := fun same => new.1 same.symm
      rw [setEntry, if_neg differs, ih new.2, List.cons_append]

namespace TypeOverrides

/-- The member for an override. -/
def member (entry : String × String) : String × Json := (entry.1, .str entry.2)

/-- Overrides are read one after the other: each new one goes behind those read before. -/
theorem entries_of_ofMembers? {entries : List (String × String)} (overrides : TypeOverrides)
    (distinct : ((overrides.entries ++ entries).map Prod.fst).Nodup) :
    (overrides.ofMembers? (entries.map member)).map (·.entries) =
      some (overrides.entries ++ entries) := by
  induction entries generalizing overrides with
  | nil => simp [ofMembers?]
  | cons entry entries ih =>
      obtain ⟨key, type⟩ := entry
      have new : key ∉ overrides.entries.map Prod.fst := by
        rw [List.map_append, List.nodup_append] at distinct
        intro old
        exact distinct.2.2 key old key (by simp) rfl
      have inserted : (overrides.insert key type).entries = overrides.entries ++ [(key, type)] :=
        setEntry_of_not_mem new
      have rest := ih (overrides.insert key type) (by simpa [inserted] using distinct)
      rw [inserted, List.append_assoc] at rest
      simpa [ofMembers?, member] using rest

@[simp] theorem ofJson?_toJson (overrides : TypeOverrides) :
    ofJson? overrides.toJson = some overrides := by
  have restored := @entries_of_ofMembers? overrides.entries empty overrides.nodup
  obtain ⟨found, read, same⟩ := Option.map_eq_some_iff.mp restored
  have equal : found = overrides := by
    obtain ⟨entries, nodup⟩ := found
    obtain ⟨entries', nodup'⟩ := overrides
    simpa [empty] using same
  rw [← equal]
  exact equal ▸ read

end TypeOverrides

@[simp] theorem JavaOptions.ofJson?_toJson (options : JavaOptions) :
    JavaOptions.ofJson? options.toJson = some options := by
  simp [JavaOptions.ofJson?, JavaOptions.toJson, recordMembers, Json.optional, defaulted,
    Json.member]

theorem SourceOptions.ofJson?_toJson (options : SourceOptions) :
    SourceOptions.ofJson? options.toJson = some options := by
  simp [SourceOptions.ofJson?, SourceOptions.toJson, recordMembers, required, Json.optional,
    defaulted, Json.member]

/-! ### Parts of specifications -/

/-- A type for every language is written as a string, types by language as an object. -/
@[simp] theorem SourceType.ofJson?_toJson (type : SourceType) :
    SourceType.ofJson? type.toJson = some type := by
  cases type with
  | uniform type => rfl
  | perLanguage typeScript java =>
      cases typeScript with
      | none => cases java <;> rfl
      | some typeScript => cases java <;> rfl

@[simp] theorem SourceType.readable_toJson (type : SourceType) : type.toJson.readable = true := by
  cases type with
  | uniform type => rfl
  | perLanguage typeScript java =>
      cases typeScript with
      | none => cases java <;> rfl
      | some typeScript => cases java <;> rfl

@[simp] theorem FieldDetail.ofJson?_toJson (detail : FieldDetail) :
    FieldDetail.ofJson? detail.toJson = some detail := by
  have sourceType := asNullable_ofOption SourceType.ofJson?_toJson rfl detail.sourceType
  simp [FieldDetail.ofJson?, FieldDetail.toJson, recordMembers, Json.optional, defaulted, member,
    sourceType]

@[simp] theorem FieldDetail.readable_toJson (detail : FieldDetail) :
    detail.toJson.readable = true := by
  have sourceType := readable_ofOption SourceType.readable_toJson detail.sourceType
  simp [FieldDetail.toJson, readable, membersReadable, sourceType]

@[simp] theorem FieldEntry.readable_toJson (entry : FieldEntry) : entry.toJson.readable = true := by
  cases entry with
  | named field => rfl
  | detailed detail => exact detail.readable_toJson

/-- Details are written as an object, so they are not taken for a name. -/
@[simp] theorem FieldEntry.ofJson?_toJson (entry : FieldEntry) :
    FieldEntry.ofJson? entry.toJson = some entry := by
  rw [FieldEntry.ofJson?, whole, if_pos entry.readable_toJson]
  cases entry with
  | named field => rfl
  | detailed detail =>
      show (FieldDetail.ofJson? detail.toJson).map FieldEntry.detailed = _
      rw [detail.ofJson?_toJson]
      rfl

@[simp] theorem RecordCondition.ofJson?_toJson (condition : RecordCondition) :
    RecordCondition.ofJson? condition.toJson = some condition := by
  simp [RecordCondition.ofJson?, RecordCondition.toJson, recordMembers, required, Json.optional,
    defaulted, member]

@[simp] theorem RecordCondition.readable_toJson (condition : RecordCondition) :
    condition.toJson.readable = true := by
  simp [RecordCondition.toJson, readable, membersReadable]

@[simp] theorem CustomMatch.pairOfJson?_pairToJson (pair : FieldPair) :
    CustomMatch.pairOfJson? (CustomMatch.pairToJson pair) = some pair := by
  simp [CustomMatch.pairOfJson?, CustomMatch.pairToJson, recordMembers, required, member]

@[simp] theorem CustomMatch.ofJson?_toJson (custom : CustomMatch) :
    CustomMatch.ofJson? custom.toJson = some custom := by
  simp [CustomMatch.ofJson?, CustomMatch.toJson, recordMembers, required, Json.optional, defaulted,
    member]

@[simp] theorem CustomMatch.readable_toJson (custom : CustomMatch) :
    custom.toJson.readable = true := by
  have equated : (ofList CustomMatch.pairToJson custom.equated).readable = true :=
    readable_ofList (fun _ => rfl) custom.equated
  simp [CustomMatch.toJson, readable, membersReadable, equated]

/-- Either form of an additional column is written in a way of its own. -/
@[simp] theorem AdditionalColumn.ofJson?_toJson (column : AdditionalColumn) :
    AdditionalColumn.ofJson? column.toJson = some column := by
  cases column with
  | property name => rfl
  | aliased name aliasName => rfl

/-! ### Links -/

/-- The keys of a table. -/
def TableSpec.keys : List String :=
  ["table", "alias", "fieldExpressions", "parentTables", "childTables", "recordCondition",
    "resultTypeName"]

theorem TableSpec.keys_members (spec : TableSpec) :
    spec.members.map Prod.fst = TableSpec.keys := by
  obtain ⟨table, aliasName, fields, parents, children, condition, resultTypeName⟩ := spec
  rfl

/-- A parent's own keys are not those of its table. -/
theorem ParentLink.keys_disjoint : ∀ key ∈ ParentLink.keys, key ∉ TableSpec.keys := by
  decide

/-- A child's own keys are not those of its table. -/
theorem ChildLink.keys_disjoint : ∀ key ∈ ChildLink.keys, key ∉ TableSpec.keys := by
  decide

/-- A parent's link is read from its own keys only. -/
theorem ParentLink.ofMembers?_congr {ms others : List (String × Json)}
    (same : ∀ key ∈ ParentLink.keys, member ms key = member others key) :
    ParentLink.ofMembers? ms = ParentLink.ofMembers? others := by
  simp only [ParentLink.keys, List.forall_mem_cons] at same
  simp only [ParentLink.ofMembers?, Json.optional, defaulted, same]

/-- A child's link is read from its own keys only. -/
theorem ChildLink.ofMembers?_congr {ms others : List (String × Json)}
    (same : ∀ key ∈ ChildLink.keys, member ms key = member others key) :
    ChildLink.ofMembers? ms = ChildLink.ofMembers? others := by
  simp only [ChildLink.keys, List.forall_mem_cons] at same
  simp only [ChildLink.ofMembers?, required, Json.optional, defaulted, same]

/-- The link of a parent is read back behind the members of the table. -/
theorem ParentLink.ofMembers?_append (spec : TableSpec) (link : ParentLink) :
    ParentLink.ofMembers? (spec.members ++ link.members) = some link := by
  have alone : ParentLink.ofMembers? link.members = some link := by
    have fields := asNullable_ofOption asList_str rfl link.foreignKeyFields
    have custom := asNullable_ofOption CustomMatch.ofJson?_toJson rfl link.customMatch
    simp [ParentLink.ofMembers?, ParentLink.members, Json.optional, defaulted, member, fields,
      custom]
  rw [← alone]
  refine ParentLink.ofMembers?_congr fun key ofLink => member_append_right ?_
  rw [spec.keys_members]
  exact ParentLink.keys_disjoint key ofLink

/-- The link of a child is read back behind the members of the table. -/
theorem ChildLink.ofMembers?_append (spec : TableSpec) (link : ChildLink) :
    ChildLink.ofMembers? (spec.members ++ link.members) = some link := by
  have alone : ChildLink.ofMembers? link.members = some link := by
    have fields := asNullable_ofOption asList_str rfl link.foreignKeyFields
    have custom := asNullable_ofOption CustomMatch.ofJson?_toJson rfl link.customMatch
    simp [ChildLink.ofMembers?, ChildLink.members, required, Json.optional, defaulted, member,
      fields, custom]
  rw [← alone]
  refine ChildLink.ofMembers?_congr fun key ofLink => member_append_right ?_
  rw [spec.keys_members]
  exact ChildLink.keys_disjoint key ofLink

theorem ParentLink.readable_members (link : ParentLink) :
    ∀ entry ∈ link.members, entry.2.readable = true := by
  rw [← membersReadable_iff]
  have fields := readable_ofOption readable_strs link.foreignKeyFields
  have custom := readable_ofOption CustomMatch.readable_toJson link.customMatch
  simp [ParentLink.members, membersReadable, fields, custom]

theorem ChildLink.readable_members (link : ChildLink) :
    ∀ entry ∈ link.members, entry.2.readable = true := by
  rw [← membersReadable_iff]
  have fields := readable_ofOption readable_strs link.foreignKeyFields
  have custom := readable_ofOption CustomMatch.readable_toJson link.customMatch
  simp [ChildLink.members, membersReadable, readable, fields, custom]

/-! ### Tables -/

theorem defaulted_cons {read : Json → Option α} (entry : String × Json)
    (ms : List (String × Json)) (key : String) (default : α) :
    defaulted (entry :: ms) key default read =
      if entry.1 = key then if hasKey key ms then none else read entry.2
      else defaulted ms key default read := by
  unfold defaulted member
  by_cases isKey : entry.1 = key
  · rw [if_pos isKey, List.filter_cons_of_pos (by simpa using isKey)]
    by_cases again : hasKey key ms = true
    · -- A second member with the key makes the lookup fail.
      obtain ⟨other, found, same⟩ := List.any_eq_true.mp again
      have listed : other ∈ ms.filter (·.1 == key) := List.mem_filter.mpr ⟨found, same⟩
      obtain ⟨first, rest, split⟩ := List.exists_cons_of_ne_nil (List.ne_nil_of_mem listed)
      rw [if_pos again, split]
    · have none : ms.filter (·.1 == key) = [] := by
        rw [List.filter_eq_nil_iff]
        intro other found same
        exact again (List.any_eq_true.mpr ⟨other, found, same⟩)
      rw [if_neg again, none]
  · rw [if_neg isKey, List.filter_cons_of_neg (by simpa using isKey)]

/-- The parents of a table are read from one of its members. -/
theorem parentsOfMembers?_eq (ms : List (String × Json)) :
    parentsOfMembers? ms = defaulted ms "parentTables" [] parentsOfJson? := by
  induction ms with
  | nil => rfl
  | cons entry ms ih => simp only [parentsOfMembers?, defaulted_cons, beq_iff_eq, ih]

theorem childrenOfMembers?_eq (ms : List (String × Json)) :
    childrenOfMembers? ms = defaulted ms "childTables" [] childrenOfJson? := by
  induction ms with
  | nil => rfl
  | cons entry ms ih => simp only [childrenOfMembers?, defaulted_cons, beq_iff_eq, ih]

theorem parentsOfItems?_eq_mapM (items : List Json) :
    parentsOfItems? items = items.mapM parentOfJson? := by
  induction items with
  | nil => rfl
  | cons item items ih => rw [parentsOfItems?, ih, List.mapM_cons]

theorem childrenOfItems?_eq_mapM (items : List Json) :
    childrenOfItems? items = items.mapM childOfJson? := by
  induction items with
  | nil => rfl
  | cons item items ih => rw [childrenOfItems?, ih, List.mapM_cons]

/-- A parent as it is written. -/
def ParentTable.toJson (parent : ParentTable) : Json :=
  .obj (parent.spec.members ++ parent.link.members)

/-- A child as it is written. -/
def ChildTable.toJson (child : ChildTable) : Json :=
  .obj (child.spec.members ++ child.link.members)

theorem ParentTable.itemsToJson_eq_map (parents : List ParentTable) :
    ParentTable.itemsToJson parents = parents.map ParentTable.toJson := by
  induction parents with
  | nil => rfl
  | cons parent parents ih =>
      obtain ⟨link, spec⟩ := parent
      rw [ParentTable.itemsToJson, ih, List.map_cons, ParentTable.toJson]

theorem ChildTable.itemsToJson_eq_map (children : List ChildTable) :
    ChildTable.itemsToJson children = children.map ChildTable.toJson := by
  induction children with
  | nil => rfl
  | cons child children ih =>
      obtain ⟨link, spec⟩ := child
      rw [ChildTable.itemsToJson, ih, List.map_cons, ChildTable.toJson]

theorem TableSpec.members_eq (spec : TableSpec) :
    spec.members = [
      ("table", .str spec.table),
      ("alias", ofOption .str spec.aliasName),
      ("fieldExpressions", ofList FieldEntry.toJson spec.fields),
      ("parentTables", ofList ParentTable.toJson spec.parents),
      ("childTables", ofList ChildTable.toJson spec.children),
      ("recordCondition", ofOption RecordCondition.toJson spec.condition),
      ("resultTypeName", ofOption .str spec.resultTypeName)] := by
  obtain ⟨table, aliasName, fields, parents, children, condition, resultTypeName⟩ := spec
  rw [TableSpec.members, ParentTable.itemsToJson_eq_map, ChildTable.itemsToJson_eq_map]
  rfl

/-- Written tables are readable, at every depth. -/
theorem TableSpec.readable_members (spec : TableSpec) :
    ∀ entry ∈ spec.members, entry.2.readable = true := by
  induction spec using TableSpec.tree_induction with
  | step spec parentsReadable childrenReadable =>
      have parents : (ofList ParentTable.toJson spec.parents).readable = true := by
        rw [ofList, readable, itemsReadable_iff, List.forall_mem_map]
        intro parent member
        rw [ParentTable.toJson, readable, membersReadable_iff, List.forall_mem_append]
        exact ⟨parentsReadable parent member, parent.link.readable_members⟩
      have children : (ofList ChildTable.toJson spec.children).readable = true := by
        rw [ofList, readable, itemsReadable_iff, List.forall_mem_map]
        intro child member
        rw [ChildTable.toJson, readable, membersReadable_iff, List.forall_mem_append]
        exact ⟨childrenReadable child member, child.link.readable_members⟩
      have fields := readable_ofList FieldEntry.readable_toJson spec.fields
      have condition := readable_ofOption RecordCondition.readable_toJson spec.condition
      rw [← membersReadable_iff, spec.members_eq]
      simp [membersReadable, readable, parents, children, fields, condition]

/-- The parts of a table that hold no other tables. -/
def TableSpec.core (spec : TableSpec) : TableCore :=
  ⟨spec.table, spec.aliasName, spec.fields, spec.condition, spec.resultTypeName⟩

@[simp] theorem TableSpec.core_withTables (spec : TableSpec) :
    spec.core.withTables spec.parents spec.children = spec := by
  obtain ⟨table, aliasName, fields, parents, children, condition, resultTypeName⟩ := spec
  rfl

/-- The parts of a table are read from its own keys only. -/
theorem TableCore.ofMembers?_congr {ms others : List (String × Json)}
    (same : ∀ key ∈ TableSpec.keys, member ms key = member others key) :
    TableCore.ofMembers? ms = TableCore.ofMembers? others := by
  simp only [TableSpec.keys, List.forall_mem_cons] at same
  simp only [TableCore.ofMembers?, required, Json.optional, defaulted, same]

/-- An object from which the parts of a table are read back. -/
structure TableSpec.ReadFrom (spec : TableSpec) (ms : List (String × Json)) : Prop where
  core : TableCore.ofMembers? ms = some spec.core
  parents : parentsOfMembers? ms = some spec.parents
  children : childrenOfMembers? ms = some spec.children

/-- A table is read back from its members, whatever members with other keys follow. -/
def TableSpec.ReadsBack (spec : TableSpec) : Prop :=
  ∀ others : List (String × Json), (∀ key ∈ others.map Prod.fst, key ∉ TableSpec.keys) →
    spec.ReadFrom (spec.members ++ others)

theorem othersReadable_of_readable {keys : List String} {ms : List (String × Json)}
    (readable : ∀ entry ∈ ms, entry.2.readable = true) : othersReadable keys ms = true := by
  rw [othersReadable, List.all_eq_true]
  intro entry member
  rw [readable entry member, Bool.or_true]

theorem parentOfJson?_toJson {parent : ParentTable} (inner : parent.spec.ReadsBack) :
    parentOfJson? parent.toJson = some parent := by
  obtain ⟨link, spec⟩ := parent
  obtain ⟨core, parents, children⟩ := inner link.members ParentLink.keys_disjoint
  have readable : othersReadable ParentLink.keys (spec.members ++ link.members) = true :=
    othersReadable_of_readable
      (List.forall_mem_append.mpr ⟨spec.readable_members, link.readable_members⟩)
  simp [ParentTable.toJson, parentOfJson?, ParentLink.ofMembers?_append, core, parents, children,
    readable]

theorem childOfJson?_toJson {child : ChildTable} (inner : child.spec.ReadsBack) :
    childOfJson? child.toJson = some child := by
  obtain ⟨link, spec⟩ := child
  obtain ⟨core, parents, children⟩ := inner link.members ChildLink.keys_disjoint
  have readable : othersReadable ChildLink.keys (spec.members ++ link.members) = true :=
    othersReadable_of_readable
      (List.forall_mem_append.mpr ⟨spec.readable_members, link.readable_members⟩)
  simp [ChildTable.toJson, childOfJson?, ChildLink.ofMembers?_append, core, parents, children,
    readable]

/-- **Tables are read back at every depth**, also where they share an object with a link. -/
theorem TableSpec.readsBack (spec : TableSpec) : spec.ReadsBack := by
  induction spec using TableSpec.tree_induction with
  | step spec parentsBack childrenBack =>
      intro others apart
      have own : ∀ key ∈ TableSpec.keys,
          member (spec.members ++ others) key = member spec.members key :=
        fun key ofTable => member_append_left fun other => apart key other ofTable
      have parents : parentsOfJson? (ofList ParentTable.toJson spec.parents) =
          some spec.parents := by
        rw [ofList, parentsOfJson?, parentsOfItems?_eq_mapM]
        exact mapM_map_write fun parent among => parentOfJson?_toJson (parentsBack parent among)
      have children : childrenOfJson? (ofList ChildTable.toJson spec.children) =
          some spec.children := by
        rw [ofList, childrenOfJson?, childrenOfItems?_eq_mapM]
        exact mapM_map_write fun child among => childOfJson?_toJson (childrenBack child among)
      refine ⟨?_, ?_, ?_⟩
      · have condition := asNullable_ofOption RecordCondition.ofJson?_toJson rfl spec.condition
        rw [TableCore.ofMembers?_congr own]
        simp [spec.members_eq, TableCore.ofMembers?, TableSpec.core, required, Json.optional,
          defaulted, member, condition]
      · rw [parentsOfMembers?_eq, defaulted, own _ (by decide)]
        simp [spec.members_eq, member, parents]
      · rw [childrenOfMembers?_eq, defaulted, own _ (by decide)]
        simp [spec.members_eq, member, children]

@[simp] theorem TableSpec.ofJson?_toJson (spec : TableSpec) :
    TableSpec.ofJson? spec.toJson = some spec := by
  obtain ⟨core, parents, children⟩ := spec.readsBack [] (by simp)
  rw [List.append_nil] at core parents children
  simp [TableSpec.ofJson?, TableSpec.toJson, recordMembers, core, parents, children]

/-! ### Queries -/

@[simp] theorem Representation.asEnum_toJson (representation : Representation) :
    asEnum Representation.names representation.toJson = some representation := by
  cases representation <;> rfl

@[simp] theorem PropertyNaming.asEnum_toJson (naming : PropertyNaming) :
    asEnum PropertyNaming.names naming.toJson = some naming := by
  cases naming <;> rfl

@[simp] theorem Query.ofJson?_toJson (query : Query) : Query.ofJson? query.toJson = some query := by
  have representations := asNullable_ofOption
    (asList_ofList Representation.asEnum_toJson) rfl query.representations
  have naming := asNullable_ofOption PropertyNaming.asEnum_toJson rfl query.propertyNaming
  simp [Query.ofJson?, Query.toJson, recordMembers, required, Json.optional, defaulted, member,
    representations, naming]

theorem QueryGroup.ofJson?_toJson (group : QueryGroup) :
    QueryGroup.ofJson? group.toJson = some group := by
  have naming := asNullable_ofOption PropertyNaming.asEnum_toJson rfl group.propertyNaming
  simp [QueryGroup.ofJson?, QueryGroup.toJson, recordMembers, required, Json.optional, defaulted,
    member, naming]

/-- **Documents are read back.** Whatever a query group, a query, a table, a schema snapshot or the
options of source generation hold, the JSON value written for them is read as just this. -/
theorem documents_are_read_back :
    (∀ group : QueryGroup, QueryGroup.ofJson? group.toJson = some group) ∧
    (∀ query : Query, Query.ofJson? query.toJson = some query) ∧
    (∀ spec : TableSpec, TableSpec.ofJson? spec.toJson = some spec) ∧
    (∀ db : Database, Database.ofJson? db.toJson = some db) ∧
    ∀ options : SourceOptions, SourceOptions.ofJson? options.toJson = some options :=
  ⟨QueryGroup.ofJson?_toJson, Query.ofJson?_toJson, TableSpec.ofJson?_toJson,
    Database.ofJson?_toJson, SourceOptions.ofJson?_toJson⟩

end NestedQuery
