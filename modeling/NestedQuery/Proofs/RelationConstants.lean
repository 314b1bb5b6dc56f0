import Mathlib.Data.List.Nodup
import NestedQuery.Schema.Pharmacy
import NestedQuery.Source.Relations

/-!
# Constants of relations

The source of a schema has a constant for each schema, and in it one for each relation with
its fields. On the way from the snapshot to the constants names can fall together in two ways:
a relation without schema is put where those of a schema `DEFAULT` are, and names that are
stored in upper case are shown in lower case.

To tell what the files declare, the names are changed first and the files are then written
without any change of names.

## Main Definitions

* `NameStyle.plain`: names as they are
* `Database.emitted`: the schemas, relations and fields under the names that the files have
  for them
* `NameStyle.Lowers`, `NameStyle.Merges`: the names that are shown in lower case, and the
  names that are shown alike
* `Relation.place`: the constant and the name under which a relation stands

## Main Results

* `Database.relationsSource_eq_emitted`: the files are those of what is emitted, with plain
  names
* `Database.placed_relationsBySchema`: each relation is put once, into its schema
* `NameStyle.shown_eq_iff`: when names are shown alike
* `constants_are_apart_iff`: when relations and fields are kept apart
* `stock_constants_fall_together`: relations and fields that are not
-/

namespace NestedQuery

/-! ### Emitted names -/

/-- The style that shows names as they are stored. -/
def NameStyle.plain (style : NameStyle) : NameStyle := { style with preferLowercase := false }

@[simp] theorem NameStyle.shown_plain (style : NameStyle) (name : String) :
    style.plain.shown name = name := by
  simp [NameStyle.shown, NameStyle.plain]

/-- A field under the name that is shown. -/
def Field.emitted (style : NameStyle) (field : Field) : Field :=
  { field with name := style.shown field.name }

/-- A relation under the names that are shown. -/
def Relation.emitted (style : NameStyle) (relation : Relation) : Relation :=
  { relation with
    id := ⟨relation.id.schema.map style.shown, style.shown relation.id.name⟩
    fields := relation.fields.map (·.emitted style) }

/-- A schema's group under the names that are shown. -/
def emittedGroup (style : NameStyle) (group : String × List Relation) : String × List Relation :=
  (style.shown group.1, group.2.map (·.emitted style))

/-- The schemas and their relations under the names that are shown. -/
def Database.emitted (style : NameStyle) (db : Database) : List (String × List Relation) :=
  db.relationsBySchema.map (emittedGroup style)

section Files

variable (style : NameStyle)

theorem TypeScript.fieldLine_emitted (field : Field) :
    TypeScript.fieldLine style.plain (field.emitted style) = TypeScript.fieldLine style field := by
  unfold TypeScript.fieldLine Field.emitted
  rw [NameStyle.shown_plain]

theorem TypeScript.relation_emitted (relation : Relation) :
    TypeScript.relation style.plain (relation.emitted style) =
      TypeScript.relation style relation := by
  unfold TypeScript.relation Relation.emitted
  simp only [NameStyle.shown_plain, List.map_map, Function.comp_def, TypeScript.fieldLine_emitted]

theorem TypeScript.relationsModule_emitted (groups : List (String × List Relation)) :
    TypeScript.relationsModule style.plain (groups.map (emittedGroup style)) =
      TypeScript.relationsModule style groups := by
  unfold TypeScript.relationsModule TypeScript.schema emittedGroup
  simp only [NameStyle.shown_plain, List.map_map, Function.comp_def, TypeScript.relation_emitted]

theorem Java.fieldConstant_emitted (field : Field) :
    Java.fieldConstant style.plain (field.emitted style) = Java.fieldConstant style field := by
  unfold Java.fieldConstant Field.emitted
  rw [NameStyle.shown_plain]

theorem Java.relation_emitted (relation : Relation) :
    Java.relation style.plain (relation.emitted style) = Java.relation style relation := by
  obtain ⟨⟨schema, name⟩, kind, fields⟩ := relation
  unfold Java.relation Relation.emitted
  -- The id in the class has the schema in front where there is one.
  cases schema <;>
    simp only [Option.map_some, Option.map_none, NameStyle.shown_plain, List.map_map,
      Function.comp_def, Java.fieldConstant_emitted]

theorem Java.relationsClass_emitted (groups : List (String × List Relation)) :
    Java.relationsClass style.plain (groups.map (emittedGroup style)) =
      Java.relationsClass style groups := by
  unfold Java.relationsClass Java.schema emittedGroup
  simp only [NameStyle.shown_plain, List.map_map, Function.comp_def, Java.relation_emitted]

end Files

/-- The files with the given constants, in the language of the options. -/
def relationsFiles (options : SourceOptions) (style : NameStyle)
    (groups : List (String × List Relation)) : List GeneratedSource :=
  match options.language with
  | .typeScript =>
    [⟨"relations-metadata", withWarning options (TypeScript.relationsModule style groups)⟩]
  | .java =>
    [⟨"Field", Java.packageLine options.java ++ Java.fieldClass⟩,
      ⟨"RelationsMetadata",
        withWarning options
          (Java.packageLine options.java ++ Java.relationsClass style groups)⟩]

/-- How the source of a schema shows names. -/
def Database.nameStyle (options : SourceOptions) (db : Database) : NameStyle :=
  ⟨db.casePolicy, options.prefersLowercase⟩

/-- **The files are those of what is emitted, with plain names.** -/
theorem Database.relationsSource_eq_emitted (options : SourceOptions) (db : Database) :
    db.relationsSource options =
      relationsFiles options (db.nameStyle options).plain (db.emitted (db.nameStyle options)) := by
  unfold Database.relationsSource relationsFiles Database.emitted
  cases options.language with
  | typeScript =>
      rw [TypeScript.relationsModule_emitted]
      rfl
  | java =>
      rw [Java.relationsClass_emitted]
      rfl

/-! ### Schemas -/

/-- The relations of groups, each with the name of its group. -/
def placed (groups : List (String × List Relation)) : List (String × Relation) :=
  groups.flatMap fun group => group.2.map fun relation => (group.1, relation)

/-- The schema into which a relation is put. -/
def Relation.schemaName (relation : Relation) : String :=
  relation.id.schema.getD defaultSchemaName

theorem placed_addToSchema (schema : String) (relation : Relation)
    (groups : List (String × List Relation)) :
    (placed (addToSchema schema relation groups)).Perm (placed groups ++ [(schema, relation)]) := by
  induction groups with
  | nil => exact List.Perm.refl _
  | cons group groups ih =>
      obtain ⟨other, relations⟩ := group
      rw [addToSchema]
      split
      · rename_i same
        subst same
        simp only [placed, List.flatMap_cons, List.map_append, List.append_assoc]
        exact (List.perm_append_comm).append_left _
      · simp only [placed, List.flatMap_cons, List.append_assoc]
        exact ih.append_left _

/-- **Each relation is put once, into its schema.** -/
theorem Database.placed_relationsBySchema (db : Database) :
    (placed db.relationsBySchema).Perm
      (db.relations.map fun relation => (relation.schemaName, relation)) := by
  have run : ∀ (relations : List Relation) groups,
      (placed (relations.foldl (fun groups relation =>
        addToSchema relation.schemaName relation groups) groups)).Perm
      (placed groups ++ relations.map fun relation => (relation.schemaName, relation)) := by
    intro relations
    induction relations with
    | nil =>
        intro groups
        rw [List.map_nil, List.append_nil]
        exact List.Perm.refl _
    | cons relation relations ih =>
        intro groups
        refine (ih _).trans ?_
        refine ((placed_addToSchema _ relation groups).append_right _).trans ?_
        rw [List.append_assoc]
        exact List.Perm.refl _
  exact run db.relations []

theorem placed_emittedGroups (style : NameStyle) (groups : List (String × List Relation)) :
    placed (groups.map (emittedGroup style)) =
      (placed groups).map fun entry => (style.shown entry.1, entry.2.emitted style) := by
  simp [placed, emittedGroup, List.flatMap_map, List.map_flatMap, Function.comp_def]

/-- What is emitted for a relation, and where. -/
theorem Database.placed_emitted (style : NameStyle) (db : Database) :
    (placed (db.emitted style)).Perm (db.relations.map fun relation =>
      (style.shown relation.schemaName, relation.emitted style)) := by
  unfold Database.emitted
  rw [placed_emittedGroups]
  have moved := db.placed_relationsBySchema.map fun entry : String × Relation =>
    (style.shown entry.1, entry.2.emitted style)
  rwa [List.map_map] at moved

/-! ### Names that are shown alike -/

namespace NameStyle

variable {style : NameStyle}

/-- A name that is shown in lower case: it is in upper case and not quoted, and the database stores
names in upper case. -/
structure Lowers (style : NameStyle) (name : String) : Prop where
  preferred : style.preferLowercase = true
  storedUpper : style.casePolicy = .storedUpper
  unquoted : Name.isQuoted name = false
  upper : Text.toUpper name = name

/-- Names that are shown alike: equal ones, a name that is lowered beside one that is its lower case
form and stays, and two names that are lowered to the same form. -/
inductive Merges (style : NameStyle) : String → String → Prop
  | same (name : String) : Merges style name name
  | lower {upper lower : String} (lowers : style.Lowers upper) (stays : ¬ style.Lowers lower)
      (form : Text.toLower upper = lower) : Merges style upper lower
  | upper {lower upper : String} (stays : ¬ style.Lowers lower) (lowers : style.Lowers upper)
      (form : Text.toLower upper = lower) : Merges style lower upper
  | both {first second : String} (firstLowers : style.Lowers first)
      (secondLowers : style.Lowers second) (form : Text.toLower first = Text.toLower second) :
      Merges style first second

theorem shown_of_lowers {name : String} (lowers : style.Lowers name) :
    style.shown name = Text.toLower name := by
  simp [shown, lowers.preferred, lowers.storedUpper, lowers.unquoted, lowers.upper]

theorem shown_of_not_lowers {name : String} (stays : ¬ style.Lowers name) :
    style.shown name = name := by
  unfold shown
  split
  · rename_i all
    simp only [Bool.and_eq_true, beq_iff_eq, Bool.not_eq_true'] at all
    exact absurd ⟨all.1.1.1, all.1.1.2, all.1.2, all.2.symm⟩ stays
  · rfl

/-- **When names are shown alike.** -/
theorem shown_eq_iff {first second : String} :
    style.shown first = style.shown second ↔ style.Merges first second := by
  constructor
  · intro alike
    by_cases left : style.Lowers first
    · by_cases right : style.Lowers second
      · rw [shown_of_lowers left, shown_of_lowers right] at alike
        exact .both left right alike
      · rw [shown_of_lowers left, shown_of_not_lowers right] at alike
        exact .lower left right alike
    · by_cases right : style.Lowers second
      · rw [shown_of_not_lowers left, shown_of_lowers right] at alike
        exact .upper left right alike.symm
      · rw [shown_of_not_lowers left, shown_of_not_lowers right] at alike
        subst alike
        exact .same first
  · intro merges
    cases merges with
    | same => rfl
    | lower lowers stays form => rw [shown_of_lowers lowers, shown_of_not_lowers stays, form]
    | upper stays lowers form => rw [shown_of_lowers lowers, shown_of_not_lowers stays, form]
    | both left right form => rw [shown_of_lowers left, shown_of_lowers right, form]

end NameStyle

/-! ### Constants -/

/-- The schema constant and the name under which a relation stands. -/
def Relation.place (style : NameStyle) (relation : Relation) : String × String :=
  ("Schema_" ++ style.shown relation.schemaName, (relation.emitted style).id.name)

/-- The places of all relations in some groups. -/
def emittedPlaces (groups : List (String × List Relation)) : List (String × String) :=
  (placed groups).map fun entry => ("Schema_" ++ entry.1, entry.2.id.name)

theorem Database.emittedPlaces_perm (style : NameStyle) (db : Database) :
    (emittedPlaces (db.emitted style)).Perm (db.relations.map (·.place style)) := by
  have places := (db.placed_emitted style).map fun entry : String × Relation =>
    ("Schema_" ++ entry.1, entry.2.id.name)
  rwa [List.map_map] at places

theorem Relation.place_eq_iff {style : NameStyle} {first second : Relation} :
    first.place style = second.place style ↔
      style.Merges first.schemaName second.schemaName ∧
        style.Merges first.id.name second.id.name := by
  simp only [Relation.place, Relation.emitted, Prod.mk.injEq, String.append_right_inj,
    NameStyle.shown_eq_iff]

theorem Field.emitted_name_eq_iff {style : NameStyle} {first second : Field} :
    (first.emitted style).name = (second.emitted style).name ↔
      style.Merges first.name second.name :=
  NameStyle.shown_eq_iff

/-- Images of different elements are different just if no two elements have one image. -/
theorem nodup_map_iff_apart {f : α → β} {xs : List α} (distinct : xs.Nodup) :
    (xs.map f).Nodup ↔ ∀ x ∈ xs, ∀ y ∈ xs, x ≠ y → f x ≠ f y := by
  rw [List.nodup_map_iff_inj_on distinct]
  exact forall₂_congr fun x _ => forall₂_congr fun y _ => not_imp_not.symm

/-- **When relations and fields are kept apart.** Let the ids of the relations be different, and the
names of the fields of each relation. The files declare what is emitted, under the names as they
stand there; each relation is emitted once, in the constant of its schema. Two relations have the
same place just if their schemas and their names are shown alike, and two fields the same name just
if their names are shown alike; so the places of all relations are different just if no two of them
are like this, and so are the fields of a relation. -/
theorem constants_are_apart_iff (db : Database) (options : SourceOptions)
    (ids : (db.relations.map (·.id)).Nodup)
    (fieldNames : ∀ relation ∈ db.relations, (relation.fields.map (·.name)).Nodup) :
    db.relationsSource options =
      relationsFiles options (db.nameStyle options).plain (db.emitted (db.nameStyle options)) ∧
    (placed (db.emitted (db.nameStyle options))).Perm (db.relations.map fun relation =>
      ((db.nameStyle options).shown relation.schemaName,
        relation.emitted (db.nameStyle options))) ∧
    (∀ first second : Relation,
      first.place (db.nameStyle options) = second.place (db.nameStyle options) ↔
        (db.nameStyle options).Merges first.schemaName second.schemaName ∧
          (db.nameStyle options).Merges first.id.name second.id.name) ∧
    ((emittedPlaces (db.emitted (db.nameStyle options))).Nodup ↔
      ∀ first ∈ db.relations, ∀ second ∈ db.relations, first ≠ second →
        ¬ ((db.nameStyle options).Merges first.schemaName second.schemaName ∧
          (db.nameStyle options).Merges first.id.name second.id.name)) ∧
    (∀ first second : Field,
      (first.emitted (db.nameStyle options)).name = (second.emitted (db.nameStyle options)).name ↔
        (db.nameStyle options).Merges first.name second.name) ∧
    ∀ relation ∈ db.relations,
      (((relation.emitted (db.nameStyle options)).fields.map (·.name)).Nodup ↔
        ∀ first ∈ relation.fields, ∀ second ∈ relation.fields, first ≠ second →
          ¬ (db.nameStyle options).Merges first.name second.name) := by
  refine ⟨db.relationsSource_eq_emitted options, db.placed_emitted _,
    fun _ _ => Relation.place_eq_iff, ?_, fun _ _ => Field.emitted_name_eq_iff, ?_⟩
  · rw [(db.emittedPlaces_perm _).nodup_iff, nodup_map_iff_apart ids.of_map]
    simp only [ne_eq, Relation.place_eq_iff]
  · intro relation member
    unfold Relation.emitted
    rw [List.map_map, nodup_map_iff_apart (fieldNames relation member).of_map]
    simp only [ne_eq, Function.comp_apply, Field.emitted_name_eq_iff]

/-- The constants of the pharmacy are apart, with its names shown in lower case. -/
theorem pharmacy_constants_are_apart :
    (Pharmacy.upperCase.relations.map (·.id)).Nodup ∧
    (∀ relation ∈ Pharmacy.upperCase.relations, (relation.fields.map (·.name)).Nodup) ∧
    ∀ first ∈ Pharmacy.upperCase.relations, ∀ second ∈ Pharmacy.upperCase.relations,
      first ≠ second →
      ¬ ((Pharmacy.upperCase.nameStyle (.forLanguage .java)).Merges
          first.schemaName second.schemaName ∧
        (Pharmacy.upperCase.nameStyle (.forLanguage .java)).Merges
          first.id.name second.id.name) := by
  have ids : (Pharmacy.upperCase.relations.map (·.id)).Nodup := by decide +kernel
  have fieldNames : ∀ relation ∈ Pharmacy.upperCase.relations,
      (relation.fields.map (·.name)).Nodup := by decide +kernel
  obtain ⟨-, -, -, apart, -⟩ :=
    constants_are_apart_iff Pharmacy.upperCase (.forLanguage .java) ids fieldNames
  exact ⟨ids, fieldNames, apart.mp (by decide +kernel)⟩

/-- A database with a relation `STOCK` that has fields `ID` and `id`, and another one in a schema
`DEFAULT`. -/
def stock : Database where
  productName := "Oracle"
  productVersion := "19c"
  casePolicy := .storedUpper
  relations := [
    ⟨⟨none, "STOCK"⟩, .table, [Pharmacy.field "ID" "int" false, Pharmacy.field "id" "int" true]⟩,
    ⟨⟨some "DEFAULT", "STOCK"⟩, .table, []⟩]
  foreignKeys := []

/-- Both relations are `stock` in the constant `Schema_default`, and both fields are `id`: the
file is that of a schema with these names. -/
theorem stock_constants_fall_together :
    (stock.relations.map (·.id)).Nodup ∧
    (∀ relation ∈ stock.relations, (relation.fields.map (·.name)).Nodup) ∧
    stock.relationsSource (.forLanguage .typeScript) =
      relationsFiles (.forLanguage .typeScript) (stock.nameStyle (.forLanguage .typeScript)).plain
        [("default", [
          ⟨⟨none, "stock"⟩, .table,
            [Pharmacy.field "id" "int" false, Pharmacy.field "id" "int" true]⟩,
          ⟨⟨some "default", "stock"⟩, .table, []⟩])] ∧
    emittedPlaces (stock.emitted (stock.nameStyle (.forLanguage .typeScript))) =
      [("Schema_default", "stock"), ("Schema_default", "stock")] := by
  refine ⟨by decide +kernel, by decide +kernel, ?_, by decide +kernel⟩
  rw [Database.relationsSource_eq_emitted]
  exact congrArg (relationsFiles _ _) (by decide +kernel)

end NestedQuery
