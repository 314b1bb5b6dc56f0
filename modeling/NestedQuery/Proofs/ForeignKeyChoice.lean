import Mathlib.Data.Finset.Dedup
import Mathlib.Data.Fintype.EquivFin
import NestedQuery.Proofs.Resolution

/-!
# Which foreign key is chosen

A foreign key between two tables is chosen by the set of its child fields. The set is compared
with the given names by a count and an inclusion: the key has as many columns as there are
different names, and the field of each column is among them. That compares sets as long as the
columns are of different fields. A key may also refer to two parent fields by one child field;
then it is missed under its own fields, and found under others.

## Main Definitions

* `KeyChoice`: what keys a link may be by
* `Database.keysOfFieldSet`: the foreign keys between two relations with a given set of child
  fields
* `Decides`: the answer that there are none, one or several keys

## Main Results

* `CasePolicy.exact_quote`: a quoted name stands for itself
* `Database.decides_qualifyingKeys`: the answer is about the keys that qualify
* `Database.qualifyingKeys_eq_keysOfFieldSet`: these are the keys with the given set of
  fields, unless one of them repeats a field
* `foreign_keys_are_chosen_by_sets_iff`: just for which keys fields are compared as sets
* `diagonal_key_is_misjudged`: a key that is missed under its own field and found under two
  others
-/

namespace NestedQuery

/-! ### Quoted names -/

theorem Name.toList_quote (name : String) :
    (Name.quote name).toList = '"' :: (name.toList ++ ['"']) := by
  simp [Name.quote]

/-- **A quoted name stands for itself**, whatever the policy and the characters in it. -/
theorem CasePolicy.exact_quote (policy : CasePolicy) (name : String) :
    policy.exact (Name.quote name) = name := by
  have quoted : Name.isQuoted (Name.quote name) = true := by
    simp [Name.isQuoted, Name.toList_quote, Name.isQuotedChars]
  rw [CasePolicy.exact, if_pos quoted, Name.dropQuotes, Name.toList_quote]
  simp

/-! ### Keys by field sets -/

/-- For a child relation, a parent relation and the names of some fields, if they are given: the
foreign keys that a link between the two may be by. -/
abbrev KeyChoice := RelationId → RelationId → Option (List String) → List ForeignKey

/-- The foreign keys from a child relation to a parent relation, in stored order, whose set of child
fields is that of the stored forms of the given names; all of them if no names are given. -/
def Database.keysOfFieldSet (db : Database) (child parent : RelationId)
    (fields : Option (List String)) : List ForeignKey :=
  db.foreignKeys.filter fun key => key.child = child ∧ key.parent = parent ∧
    ∀ names ∈ fields, key.childFields.toFinset = (names.map db.exact).toFinset

/-- An answer to the question for the one key among some keys: there is none, it is this one, or
there are several; in the last case the answer tells whether fields were given. -/
structure Decides (child parent : RelationId) (fields : Option (List String))
    (keys : List ForeignKey) (answer : Except DatabaseError (Option ForeignKey)) : Prop where
  missing : answer = .ok none ↔ keys = []
  single : ∀ key, answer = .ok (some key) ↔ keys = [key]
  several : answer = .error (.ambiguousForeignKey child parent fields.isSome) ↔ 1 < keys.length

namespace Database

variable {db : Database} {child parent : RelationId} {fields : Option (List String)}

/-- **The answer is about the keys that qualify.** -/
theorem decides_qualifyingKeys (db : Database) (child parent : RelationId)
    (fields : Option (List String)) :
    Decides child parent fields (db.qualifyingKeys child parent fields)
      (db.foreignKey? child parent fields) := by
  unfold foreignKey?
  rcases db.qualifyingKeys child parent fields with _ | ⟨first, _ | ⟨second, rest⟩⟩
  · exact ⟨by simp, by simp, by simp⟩
  · exact ⟨by simp, by simp, by simp⟩
  · exact ⟨by simp, by simp, by simp⟩

theorem mem_keysOfFieldSet {key : ForeignKey} :
    key ∈ db.keysOfFieldSet child parent fields ↔
      key ∈ db.foreignKeysBetween child parent ∧
        ∀ names ∈ fields, key.childFields.toFinset = (names.map db.exact).toFinset := by
  simp [keysOfFieldSet, foreignKeysBetween, and_assoc]

end Database

namespace ForeignKey

variable {key : ForeignKey} {names : List String}

theorem length_eraseDups (names : List String) :
    names.eraseDups.length = names.toFinset.card := by
  rw [← List.toFinset_card_of_nodup (nodup_eraseDups names)]
  congr 1
  ext name
  simp only [List.mem_toFinset, List.mem_eraseDups]

/-- The test is by a count and an inclusion. -/
theorem hasChildFields_iff :
    key.hasChildFields names = true ↔
      key.childFields.length = names.toFinset.card ∧ key.childFields.toFinset ⊆ names.toFinset := by
  simp [hasChildFields, length_eraseDups, childFields, Finset.subset_iff]

/-- The fields of a key without repetitions are compared with the names as sets. -/
theorem hasChildFields_iff_of_nodup (distinct : key.childFields.Nodup) :
    key.hasChildFields names = true ↔ key.childFields.toFinset = names.toFinset := by
  rw [hasChildFields_iff, ← List.toFinset_card_of_nodup distinct]
  constructor
  · rintro ⟨size, included⟩
    exact Finset.eq_of_subset_of_card_le included (Nat.le_of_eq size.symm)
  · intro same
    rw [same]
    exact ⟨rfl, Finset.Subset.refl _⟩

/-- A key that repeats a child field is taken for one with more fields, as many as it has columns.
Any other name can be among them. -/
theorem exists_hasChildFields_of_repetition (repeats : ¬ key.childFields.Nodup) {other : String}
    (outside : other ∉ key.childFields) :
    ∃ names, other ∈ names ∧ key.hasChildFields names = true := by
  have fewer : key.childFields.toFinset.card < key.columns.length := by
    rw [← List.length_map (·.child)]
    refine lt_of_le_of_ne (List.toFinset_card_le _) fun same => repeats ?_
    exact Multiset.coe_nodup.mp (Multiset.toFinset_card_eq_card_iff_nodup.mp same)
  have room : (insert other key.childFields.toFinset).card ≤ key.columns.length := by
    rw [Finset.card_insert_of_notMem (by simpa using outside)]
    exact fewer
  obtain ⟨names, included, size⟩ := Infinite.exists_superset_card_eq _ _ room
  refine ⟨names.toList, by simpa using included (Finset.mem_insert_self _ _), ?_⟩
  rw [hasChildFields_iff, Finset.toList_toFinset, size]
  exact ⟨List.length_map .., (Finset.subset_insert _ _).trans included⟩

end ForeignKey

/-- **Which keys qualify.** Those with the given set of fields do, if no key between the two
relations repeats a child field. Without given fields it does not matter which fields a key
has. -/
theorem Database.qualifyingKeys_eq_keysOfFieldSet {db : Database} {child parent : RelationId}
    {fields : Option (List String)}
    (distinct : ∀ names ∈ fields, ∀ key ∈ db.foreignKeys, key.child = child →
      key.parent = parent → key.childFields.Nodup) :
    db.qualifyingKeys child parent fields = db.keysOfFieldSet child parent fields := by
  unfold qualifyingKeys keysOfFieldSet foreignKeysBetween
  rw [List.filter_filter]
  refine List.filter_congr fun key stored => ?_
  rw [Bool.eq_iff_iff]
  cases fields with
  | none => simp
  | some names =>
      simp only [Bool.and_eq_true, beq_iff_eq, Option.mem_some_iff, forall_eq', decide_eq_true_eq]
      rw [and_comm, and_assoc]
      refine and_congr_right fun ofChild => and_congr_right fun ofParent => ?_
      exact ForeignKey.hasChildFields_iff_of_nodup (distinct names rfl key stored ofChild ofParent)

/-- **Just for which keys fields are compared as sets.** Without given fields the key is always
chosen among all keys between the relations. It is chosen by the set of its child fields, whatever
fields are given, if and only if no key between the relations repeats a child field. -/
theorem foreign_keys_are_chosen_by_sets_iff (db : Database) (child parent : RelationId) :
    Decides child parent none (db.keysOfFieldSet child parent none)
        (db.foreignKey? child parent none) ∧
      ((∀ fields, Decides child parent fields (db.keysOfFieldSet child parent fields)
          (db.foreignKey? child parent fields)) ↔
        ∀ key ∈ db.foreignKeys, key.child = child → key.parent = parent →
          key.childFields.Nodup) := by
  constructor
  · rw [← Database.qualifyingKeys_eq_keysOfFieldSet (by simp)]
    exact db.decides_qualifyingKeys child parent none
  constructor
  · intro decides key stored fromChild toParent
    by_contra repeats
    -- Names for which the key is chosen, with one that is a field of no key.
    obtain ⟨other, unused⟩ :=
      Infinite.exists_notMem_finset (db.foreignKeys.flatMap (·.childFields)).toFinset
    rw [List.mem_toFinset, List.mem_flatMap] at unused
    obtain ⟨names, given, chosen⟩ := ForeignKey.exists_hasChildFields_of_repetition repeats
      fun inKey => unused ⟨key, stored, inKey⟩
    have spelled : (names.map Name.quote).map db.exact = names := by
      simp [Database.exact, CasePolicy.exact_quote, Function.comp_def]
    have none : db.keysOfFieldSet child parent (some (names.map Name.quote)) = [] := by
      refine List.eq_nil_iff_forall_not_mem.mpr fun found member => unused ?_
      obtain ⟨between, same⟩ := Database.mem_keysOfFieldSet.mp member
      have fields := same _ rfl
      rw [spelled] at fields
      refine ⟨found, (List.mem_filter.mp between).1, ?_⟩
      rwa [← List.mem_toFinset, fields, List.mem_toFinset]
    have qualifies : key ∈ db.qualifyingKeys child parent (some (names.map Name.quote)) := by
      simp [Database.qualifyingKeys, Database.foreignKeysBetween, stored, fromChild, toParent,
        spelled, chosen]
    have missing := (decides _).missing.mpr none
    rw [(db.decides_qualifyingKeys child parent _).missing.mp missing] at qualifies
    cases qualifies
  · intro distinct fields
    rw [← Database.qualifyingKeys_eq_keysOfFieldSet fun _ _ => distinct]
    exact db.decides_qualifyingKeys child parent fields

/-! ### A key with a repeated field -/

namespace Diagonal

def cell : RelationId := ⟨some "geo", "cell"⟩

def diagonal : RelationId := ⟨some "geo", "diagonal"⟩

/-- A field with a whole number, at a position of the primary key or not part of it. -/
def wholeNumber (name : String) (keyPart : Option UInt32) : Field :=
  ⟨name, "int4", some false, keyPart, none, none, none, none⟩

/-- A cell of the diagonal has the same number as row and as column. -/
def key : ForeignKey :=
  ⟨some "diagonal_cell", diagonal, cell, [⟨"number", "row"⟩, ⟨"number", "column"⟩]⟩

def cells : Relation :=
  ⟨cell, .table, [wholeNumber "row" (some 1), wholeNumber "column" (some 2)]⟩

def diagonals : Relation :=
  ⟨diagonal, .table, [wholeNumber "number" (some 1), wholeNumber "label" none]⟩

def database : Database := ⟨"PostgreSQL", "16.2", .storedLower, [cells, diagonals], [key]⟩

end Diagonal

/-- **A key that is misjudged.** It has a single child field, in both of its columns. Under the name
of this field it is not found, and under this name and another one it is. -/
theorem diagonal_key_is_misjudged :
    (Diagonal.database.foreignKey? Diagonal.diagonal Diagonal.cell (some ["number"]) = .ok none ∧
      ¬ Decides Diagonal.diagonal Diagonal.cell (some ["number"])
        (Diagonal.database.keysOfFieldSet Diagonal.diagonal Diagonal.cell (some ["number"]))
        (Diagonal.database.foreignKey? Diagonal.diagonal Diagonal.cell (some ["number"]))) ∧
    Diagonal.database.foreignKey? Diagonal.diagonal Diagonal.cell (some ["number", "label"]) =
        .ok (some Diagonal.key) ∧
      ¬ Decides Diagonal.diagonal Diagonal.cell (some ["number", "label"])
        (Diagonal.database.keysOfFieldSet Diagonal.diagonal Diagonal.cell
          (some ["number", "label"]))
        (Diagonal.database.foreignKey? Diagonal.diagonal Diagonal.cell
          (some ["number", "label"])) := by
  have missed : Diagonal.database.foreignKey? Diagonal.diagonal Diagonal.cell (some ["number"]) =
      .ok none := by decide +kernel
  have found : Diagonal.database.foreignKey? Diagonal.diagonal Diagonal.cell
      (some ["number", "label"]) = .ok (some Diagonal.key) := by decide +kernel
  refine ⟨⟨missed, fun decides => ?_⟩, found, fun decides => ?_⟩
  · exact absurd (decides.missing.mp missed) (by decide +kernel)
  · exact absurd ((decides.single _).mp found) (by decide +kernel)

end NestedQuery
