import NestedQuery.Proofs.EmittedNames
import NestedQuery.Proofs.Nullability

/-!
# Default property names and stored names

A field that is given no property name gets one from its name as written. When property names are
taken from the database, this is meant to be the stored name. The field is looked up by the stored
form of the written name, in which quotes are dropped; the property name is made from the written
name with its quotes. The two agree for names without quotes, except for names of mixed case, which
are kept as they are written. For quoted names they never agree.

## Main Definitions

* `FieldEntry.NamesField`: an entry that names a field and gives it no property name

## Main Results

* `CasePolicy.count_fold`: the letter case of a name neither brings quotes into it nor takes them
  from it
* `PropertyNaming.propertyName_eq_exact_iff`: when a default property name is a stored name
* `default_names_are_stored_iff`: the same for the entries of a field list
* `quotes_stay_in_default_name`: a property name with quotes
-/

namespace NestedQuery

/-! ### Letter case and the number of quotes -/

namespace Text

/-- The form of a character has as many quotes as the character, if it is a quote for a quote and
has none otherwise. -/
theorem count_form {form : List Char} {c : Char} (kept : c = '"' → form = ['"'])
    (spared : '"' ∈ form → c = '"') : form.count '"' = [c].count '"' := by
  by_cases quote : c = '"'
  · rw [kept quote, quote]
  · rw [List.count_eq_zero_of_not_mem fun member => quote (spared member), List.count_singleton,
      if_neg (by simpa using quote)]

theorem count_lowerAfter (before cs : List Char) :
    (lowerAfter before cs).count '"' = cs.count '"' := by
  induction cs generalizing before with
  | nil => rfl
  | cons c cs ih =>
      rw [lowerAfter, List.count_append, ih, ← @List.singleton_append _ c cs, List.count_append]
      congr 1
      split
      · -- Neither the sigma nor one of its small forms is a quote.
        rename_i sigma
        subst sigma
        split <;> decide
      · refine count_form (fun quote => ?_) fun member =>
          (IsQuote.spares_lower (.inl rfl)).eq_of_mem member
        rw [quote]
        decide

theorem count_toUpper (name : String) :
    (toUpper name).toList.count '"' = name.toList.count '"' := by
  rw [toUpper, String.toList_ofList]
  induction name.toList with
  | nil => rfl
  | cons c cs ih =>
      rw [List.flatMap_cons, List.count_append, ih, ← @List.singleton_append _ c cs,
        List.count_append]
      congr 1
      refine count_form (fun quote => ?_) fun member =>
        (IsQuote.spares_upper (.inl rfl)).eq_of_mem member
      rw [quote]
      decide

end Text

/-- **The letter case of a name leaves the quotes in it.** -/
theorem CasePolicy.count_fold (policy : CasePolicy) (name : String) :
    (policy.fold name).toList.count '"' = name.toList.count '"' := by
  cases policy with
  | storedLower =>
      rw [fold, Text.toLower, String.toList_ofList]
      exact Text.count_lowerAfter [] name.toList
  | storedUpper => exact Text.count_toUpper name
  | storedMixed => rfl
  | sensitive => rfl

/-! ### Default names -/

/-- A quoted name is the name within, between two quotes. -/
theorem Name.toList_of_isQuoted {name : String} (quoted : Name.isQuoted name = true) :
    name.toList = '"' :: ((Name.dropQuotes name).toList ++ ['"']) := by
  unfold Name.isQuoted at quoted
  unfold Name.dropQuotes
  cases split : name.toList with
  | nil =>
      rw [split] at quoted
      cases quoted
  | cons c rest =>
      rw [split] at quoted
      unfold Name.isQuotedChars at quoted
      split at quoted
      · rename_i same
        cases same
        rw [beq_iff_eq, List.getLast?_eq_some_iff] at quoted
        obtain ⟨inner, rfl⟩ := quoted
        simp
      · cases quoted

/-- **When a default property name is a stored name.** With names taken from the database it is,
just if the name is written without quotes and, should it be of mixed case, as the database stores
it. -/
theorem PropertyNaming.propertyName_eq_exact_iff (policy : CasePolicy) (name : String) :
    asInDatabase.propertyName policy name = policy.exact name ↔
      Name.isQuoted name = false ∧ (Text.isMixedCase name = true → policy.fold name = name) := by
  unfold propertyName CasePolicy.exact
  dsimp only
  cases quoted : Name.isQuoted name with
  | false =>
      rw [if_neg Bool.false_ne_true, and_iff_right rfl]
      split
      · rename_i mixed
        rw [forall_prop_of_true mixed, eq_comm]
      · rename_i plain
        exact iff_of_true rfl fun mixed => absurd mixed plain
  | true =>
      rw [if_pos rfl]
      refine iff_of_false (fun same => ?_) fun unquoted => nomatch unquoted.1
      -- The property name has the two quotes that the stored name lacks.
      have kept :
          (if Text.isMixedCase name = true then name else policy.fold name).toList.count '"' =
            (Name.dropQuotes name).toList.count '"' + 2 := by
        have outer : name.toList.count '"' = (Name.dropQuotes name).toList.count '"' + 2 := by
          rw [Name.toList_of_isQuoted quoted]
          simp
        split
        · exact outer
        · rw [policy.count_fold, outer]
      rw [same] at kept
      omega

/-- An entry of a field list that names a field and gives it no property name. -/
inductive FieldEntry.NamesField (name : String) : FieldEntry → Prop
  | bare : NamesField name (.named name)
  | detailed {detail : FieldDetail} (field : detail.field = some name)
      (alone : detail.expression = none) (unnamed : detail.jsonProperty = none) :
      NamesField name (.detailed detail)

theorem Resolver.fieldEntry_of_namesField {r : Resolver} {location : Location}
    {relation : Relation} {name : String} {entry : FieldEntry} {planned : PlannedField}
    (names : entry.NamesField name)
    (resolved : r.fieldEntry location relation entry = .ok planned) :
    ∃ stored, r.database.field? relation name = some stored ∧ planned.source = .field stored ∧
      planned.name = r.propertyName name := by
  cases names with
  | bare =>
      obtain ⟨stored, found, rfl⟩ := fieldProperty_eq_ok resolved
      exact ⟨stored, found, rfl, rfl⟩
  | detailed field alone unnamed =>
      rw [fieldEntry, field, alone] at resolved
      obtain ⟨stored, found, rfl⟩ := fieldProperty_eq_ok resolved
      refine ⟨stored, found, rfl, ?_⟩
      rw [unnamed]
      rfl

/-- **Default names of entries.** Let an entry name a field, give it no property name, and be
resolved while property names are taken from the database. Then its property name is the stored name
of the field, just if the name is written without quotes and, should it be of mixed case, as the
database stores it. -/
theorem default_names_are_stored_iff (r : Resolver) (asStored : r.naming = .asInDatabase)
    (location : Location) (relation : Relation) {name : String} {entry : FieldEntry}
    (names : entry.NamesField name) {planned : PlannedField}
    (resolved : r.fieldEntry location relation entry = .ok planned) :
    ∃ stored, r.database.field? relation name = some stored ∧ planned.source = .field stored ∧
      (planned.name = stored.name ↔ Name.isQuoted name = false ∧
        (Text.isMixedCase name = true → r.database.casePolicy.fold name = name)) := by
  obtain ⟨stored, found, source, default⟩ := Resolver.fieldEntry_of_namesField names resolved
  refine ⟨stored, found, source, ?_⟩
  have storedName : stored.name = r.database.casePolicy.exact name := by
    simpa [Database.exact] using List.find?_some found
  rw [default, storedName, Resolver.propertyName, asStored]
  exact PropertyNaming.propertyName_eq_exact_iff r.database.casePolicy name

/-! ### Names of analysts -/

/-- The analysts of the pharmaceutical schema. -/
def Pharmacy.analyst : Relation :=
  table "analyst" [keyField "id" 1, textField "short_name" 50 false]

/-- Written in capitals, a field has its stored name as the property name; written in mixed case, in
the details of an entry, it has not. -/
theorem short_name_is_default_name :
    (∃ planned stored, Pharmacy.resolver.fieldEntry (Location.root "analysts") Pharmacy.analyst
        (.named "SHORT_NAME") = .ok planned ∧
      planned.source = .field stored ∧ planned.name = stored.name) ∧
    ∃ planned stored, Pharmacy.resolver.fieldEntry (Location.root "analysts") Pharmacy.analyst
        (.detailed ⟨some "Short_Name", none, none, none, none, none⟩) = .ok planned ∧
      planned.source = .field stored ∧ planned.name ≠ stored.name := by
  have capitals : Pharmacy.resolver.fieldEntry (Location.root "analysts") Pharmacy.analyst
      (.named "SHORT_NAME") =
        .ok ⟨"short_name", .field (Pharmacy.textField "short_name" 50 false), none, none⟩ := by
    decide +kernel
  have mixed : Pharmacy.resolver.fieldEntry (Location.root "analysts") Pharmacy.analyst
      (.detailed ⟨some "Short_Name", none, none, none, none, none⟩) =
        .ok ⟨"Short_Name", .field (Pharmacy.textField "short_name" 50 false), none, none⟩ := by
    decide +kernel
  constructor
  · obtain ⟨stored, -, source, same⟩ := default_names_are_stored_iff Pharmacy.resolver rfl
      (Location.root "analysts") Pharmacy.analyst .bare capitals
    exact ⟨_, stored, capitals, source, same.mpr ⟨by decide, by decide⟩⟩
  · obtain ⟨stored, -, source, same⟩ := default_names_are_stored_iff Pharmacy.resolver rfl
      (Location.root "analysts") Pharmacy.analyst (.detailed rfl rfl rfl) mixed
    exact ⟨_, stored, mixed, source, fun equal =>
      absurd ((same.mp equal).2 (by decide)) (by decide)⟩

/-- **Quotes stay in a default name.** Written in double quotes, bare or in the details of an entry,
the field of the stored name `short_name` is found, and its property name has the quotes. -/
theorem quotes_stay_in_default_name :
    Pharmacy.resolver.naming = .asInDatabase ∧
    Pharmacy.resolver.fieldEntry (Location.root "analysts") Pharmacy.analyst
        (.named "\"short_name\"") =
      .ok ⟨"\"short_name\"", .field (Pharmacy.textField "short_name" 50 false), none, none⟩ ∧
    Pharmacy.resolver.fieldEntry (Location.root "analysts") Pharmacy.analyst
        (.detailed ⟨some "\"short_name\"", none, none, none, none, none⟩) =
      .ok ⟨"\"short_name\"", .field (Pharmacy.textField "short_name" 50 false), none, none⟩ ∧
    "\"short_name\"" ≠ (Pharmacy.textField "short_name" 50 false).name := by
  decide +kernel

end NestedQuery
