import NestedQuery.Schema.Pharmacy
import NestedQuery.Statement.Build

/-!
# Queries of the pharmaceutical schema

A query to try things on. It has a parent beside the fields of its table whose own parent may be
missing, a parent as an object, and children as objects and as bare values.

## Main Definitions

* `Pharmacy.resolver`: the schema with its own schema name as the default
* `Pharmacy.drugQuery`: drugs with the tables around them
* `Pharmacy.bareAdvisoryQuery`: a query that is refused
-/

namespace NestedQuery.Pharmacy

/-- Names are resolved in the lower case schema and kept as they are. -/
def resolver : Resolver := ⟨lowerCase, some schema, .asInDatabase⟩

/-- A parent whose fields go beside those of the table, by the foreign key with the given fields. -/
def inlineParent (foreignKeyFields : Option (List String)) (spec : TableSpec) : ParentTable :=
  ⟨⟨none, foreignKeyFields, none, none, none⟩, spec⟩

/-- A parent that becomes an object. -/
def referencedParent (name : String) (spec : TableSpec) : ParentTable :=
  ⟨⟨some name, none, none, none, some 1⟩, spec⟩

/-- Children by the foreign key to the table. -/
def children (collectionName : String) (unwrap : Bool) (spec : TableSpec) : ChildTable :=
  ⟨⟨collectionName, none, none, none, some unwrap, none, none⟩, spec⟩

/-- Analysts with their names. -/
def analysts : TableSpec := ⟨"analyst", none, [.named "short_name"], [], [], none, none⟩

/-- Compounds with the analysts who approved them, where there is one. -/
def compounds : TableSpec :=
  ⟨"compound", none, [.named "entered_by"], [inlineParent (some ["approved_by"]) analysts], [],
    none, none⟩

/-- Advisories with their types. -/
def advisories : TableSpec :=
  ⟨"advisory", none, [.named "text"],
    [inlineParent none ⟨"advisory_type", none, [.named "name"], [], [], none, none⟩], [], none,
    none⟩

/-- Drugs with their compounds, the analysts who registered them, their advisories and brands. -/
def drugs : TableSpec :=
  ⟨"drug", none, [.named "name", .named "therapeutic_indications"],
    [inlineParent none compounds, referencedParent "registered_by" analysts],
    [children "advisories" false advisories,
      children "brands" true ⟨"brand", none, [.named "brand_name"], [], [], none, none⟩],
    none, none⟩

/-- The drugs as JSON objects and as one JSON array. -/
def drugQuery : Query :=
  ⟨"drugs query", drugs, some [.jsonObjectRows, .jsonArrayRow], none, none, none, none, [], none⟩

/-- The drug query is accepted, and there is a statement for each of its representations. -/
theorem statements_drugQuery :
    ∃ statements, drugQuery.statements resolver = .ok statements ∧
      statements.map Prod.fst = [.jsonObjectRows, .jsonArrayRow] := by
  have wanted : (drugQuery.statements resolver).toOption.map (·.map Prod.fst) =
      some [.jsonObjectRows, .jsonArrayRow] := by
    decide +kernel
  cases made : drugQuery.statements resolver with
  | error error =>
      rw [made] at wanted
      cases wanted
  | ok statements =>
      rw [made] at wanted
      exact ⟨statements, rfl, Option.some.inj wanted⟩

/-- A query with a fault: advisories have two properties, so they are no bare values. -/
def bareAdvisoryQuery : Query :=
  { drugQuery with
    table := ⟨"drug", none, [], [], [children "advisories" true advisories], none, none⟩ }

end NestedQuery.Pharmacy
