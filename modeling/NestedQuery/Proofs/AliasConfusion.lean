import NestedQuery.Proofs.AliasAllocation
import NestedQuery.Proofs.Scoping

/-!
# Conditions that compare a table with itself

A match condition names its two tables by their aliases. Aliases are written without quotes, so a
database reads them without regard to case, while an alias counts as free in a scope if it differs
from the others as a text. A condition whose aliases are the same but for case is about one table
only. Here it is found out when this happens.

## Main Definitions

* `Statement.Compares`: the match conditions of a statement, at any depth
* `SameIgnoringCase`: how aliases are compared by a database
* `MatchCondition.Confused`: a given alias meets an automatic one that is its lower case form

## Main Results

* `IsAutomatic.toLower_eq`: automatic aliases are in lower case
* `Allocated.confused_of_same`: given aliases never meet each other, nor do automatic ones
* `compares_itself_iff_confused`: the conditions of a query
* `shouted_alias_compares_itself`: a query for which it happens
-/

namespace NestedQuery

/-! ### Lower case -/

namespace Text

/-- An ASCII character that is its own lower case form. -/
def IsPlain (c : Char) : Prop :=
  c.toNat < 0x80 ∧ c.toLower = c

theorem lowerAfter_of_plain {before cs : List Char} (plain : ∀ c ∈ cs, IsPlain c) :
    lowerAfter before cs = cs := by
  induction cs generalizing before with
  | nil => rfl
  | cons c cs ih =>
      obtain ⟨ascii, lower⟩ := plain c List.mem_cons_self
      have rest := @ih (c :: before) fun other member => plain other (List.mem_cons_of_mem _ member)
      have noSigma : c ≠ capitalSigma := by
        rintro rfl
        exact absurd ascii (by decide)
      have form : lowerChar c = [c] := by
        unfold lowerChar
        rw [if_pos ascii, lower]
      unfold lowerAfter
      simp only [if_neg noSigma, form, rest]
      rfl

theorem toLower_of_plain {s : String} (plain : ∀ c ∈ s.toList, IsPlain c) : toLower s = s := by
  unfold toLower
  rw [lowerAfter_of_plain plain, String.ofList_toList]

theorem isPlain_toLower_of_ascii : ∀ n < 0x80, IsPlain (Char.ofNat n).toLower := by
  unfold IsPlain
  decide

theorem toNat_lt_of_isAlphanum {c : Char} (alphanum : c.isAlphanum = true) : c.toNat < 0x80 := by
  -- The last one of each kind of characters is in ASCII.
  rcases Bool.or_eq_true_iff.mp alphanum with alpha | digit
  · rcases Bool.or_eq_true_iff.mp alpha with upper | lower
    · have last : c.val ≤ 'Z'.val := (of_decide_eq_true upper).2
      exact Nat.lt_of_le_of_lt (UInt32.le_iff_toNat_le.mp last) (by decide)
    · have last : c.val ≤ 'z'.val := of_decide_eq_true (Bool.and_eq_true_iff.mp lower).2
      exact Nat.lt_of_le_of_lt (UInt32.le_iff_toNat_le.mp last) (by decide)
  · have last : c.toNat ≤ '9'.toNat := (Char.isDigit_iff_toNat.mp digit).2
    exact Nat.lt_of_le_of_lt last (by decide)

theorem isPlain_toLower {c : Char} (alphanum : c.isAlphanum = true) : IsPlain c.toLower := by
  have plain := isPlain_toLower_of_ascii c.toNat (toNat_lt_of_isAlphanum alphanum)
  rw [Char.ofNat_toNat] at plain
  exact plain

theorem isPlain_of_isDigit {c : Char} (digit : c.isDigit = true) : IsPlain c := by
  have ascii := toNat_lt_of_isAlphanum (show c.isAlphanum = true by simp [Char.isAlphanum, digit])
  have digits : ∀ n < 0x80, (Char.ofNat n).isDigit = true → IsPlain (Char.ofNat n) := by
    unfold IsPlain
    decide
  rw [← Char.ofNat_toNat c] at digit ⊢
  exact digits c.toNat ascii digit

theorem isPlain_of_mem_initials {name : String} {c : Char} (member : c ∈ (initials name).toList) :
    IsPlain c := by
  unfold initials at member
  rw [String.toList_ofList, List.mem_filterMap] at member
  obtain ⟨piece, -, chosen⟩ := member
  obtain ⟨first, found, rfl⟩ := Option.map_eq_some_iff.mp chosen
  exact isPlain_toLower (List.find?_some found)

theorem isPlain_of_mem_number {i : Int} {c : Char} (member : c ∈ (toString i).toList) :
    IsPlain c := by
  rw [Int.toString_eq_repr, Int.repr_eq_if] at member
  split at member
  · exact isPlain_of_isDigit (isDigit_of_mem_repr member)
  · rw [String.toList_append] at member
    rcases List.mem_append.mp member with minus | digit
    · rw [show c = '-' from List.mem_singleton.mp minus]
      exact ⟨by decide, by decide⟩
    · exact isPlain_of_isDigit (isDigit_of_mem_repr digit)

end Text

theorem AutomaticBase.isPlain {base : String} (automatic : AutomaticBase base) :
    ∀ c ∈ base.toList, Text.IsPlain c := by
  intro c member
  cases automatic with
  | table name =>
      rw [String.toList_append] at member
      rcases List.mem_append.mp member with initial | underscore
      · exact Text.isPlain_of_mem_initials initial
      · rw [show c = '_' from List.mem_singleton.mp underscore]
        exact ⟨by decide, by decide⟩
  | subquery =>
      rw [show c = 'q' from List.mem_singleton.mp member]
      exact ⟨by decide, by decide⟩

/-- Automatic aliases are in lower case. -/
theorem IsAutomatic.toLower_eq {aliasName : String} (automatic : IsAutomatic aliasName) :
    Text.toLower aliasName = aliasName := by
  obtain ⟨base, based, form⟩ := automatic
  apply Text.toLower_of_plain
  rcases form with rfl | ⟨i, rfl⟩
  · exact based.isPlain
  · intro c member
    unfold Text.numbered at member
    rw [String.append_empty, String.toList_append] at member
    rcases List.mem_append.mp member with ofBase | ofNumber
    · exact based.isPlain c ofBase
    · exact Text.isPlain_of_mem_number ofNumber

/-- An alias without the mark of either kind of automatic alias is none. -/
theorem IsAutomatic.mem_mark {aliasName : String} (automatic : IsAutomatic aliasName) :
    '_' ∈ aliasName.toList ∨ 'q' ∈ aliasName.toList := by
  obtain ⟨base, based, form⟩ := automatic
  have inBase : '_' ∈ base.toList ∨ 'q' ∈ base.toList := by
    cases based with
    | table name =>
        rw [String.toList_append]
        exact .inl (List.mem_append_right _ List.mem_cons_self)
    | subquery => exact .inr List.mem_cons_self
  rcases form with rfl | ⟨i, rfl⟩
  · exact inBase
  · unfold Text.numbered
    rw [String.append_empty, String.toList_append]
    exact inBase.imp (List.mem_append_left _) (List.mem_append_left _)

/-! ### Comparison of aliases -/

/-- Aliases that a database takes for the same one. -/
def SameIgnoringCase (a b : String) : Prop :=
  Text.toLower a = Text.toLower b

instance (a b : String) : Decidable (SameIgnoringCase a b) :=
  inferInstanceAs (Decidable (Text.toLower a = Text.toLower b))

/-- Of the two aliases one is given and the other is its lower case form, chosen automatically. -/
def Confuses (given a b : String) : Prop :=
  IsAutomatic (Text.toLower given) ∧
    (a = given ∧ b = Text.toLower given ∨ a = Text.toLower given ∧ b = given)

theorem Confuses.symm {given a b : String} (confuses : Confuses given a b) :
    Confuses given b a := by
  obtain ⟨automatic, ⟨first, second⟩ | ⟨first, second⟩⟩ := confuses
  · exact ⟨automatic, .inr ⟨second, first⟩⟩
  · exact ⟨automatic, .inl ⟨second, first⟩⟩

theorem Confuses.same {given a b : String} (confuses : Confuses given a b) :
    SameIgnoringCase a b := by
  obtain ⟨automatic, ⟨rfl, rfl⟩ | ⟨rfl, rfl⟩⟩ := confuses
  · exact automatic.toLower_eq.symm
  · exact automatic.toLower_eq

/-- An alias and a later one, in whose scope it is. If they are the same but for case, although
given aliases are not, then just one of them is given and the other is confused with it. -/
theorem Allocates.confuses_of_same {outer inner : AliasScope} {first second : Option String}
    {a b : String} (allocatesFirst : Allocates outer first a)
    (allocatesSecond : Allocates inner second b) (seen : inner.contains a = true)
    (distinct : ∀ x ∈ first, ∀ y ∈ second, ¬ SameIgnoringCase x y) (same : SameIgnoringCase a b) :
    ∃ given, (given ∈ first ∨ given ∈ second) ∧ Confuses given a b := by
  unfold SameIgnoringCase at same
  cases allocatesFirst with
  | given =>
      cases allocatesSecond with
      | given => exact absurd same (distinct a rfl b rfl)
      | fresh automatic free =>
          rw [automatic.toLower_eq] at same
          refine ⟨a, .inl rfl, ?_, .inl ⟨rfl, same.symm⟩⟩
          rw [same]
          exact automatic
  | fresh automatic =>
      rw [automatic.toLower_eq] at same
      cases allocatesSecond with
      | given =>
          refine ⟨b, .inr rfl, ?_, .inr ⟨same, rfl⟩⟩
          rw [← same]
          exact automatic
      | fresh automaticSecond free =>
          -- Both in lower case, so they are equal; but one is in the scope and the other is not.
          rw [automaticSecond.toLower_eq] at same
          rw [same, free] at seen
          cases seen

/-! ### Conditions -/

/-- The match conditions of a statement: those that join its sub-queries, those of its rows with an
enclosing row, and those in its sub-queries. -/
inductive Statement.Compares : Statement → MatchCondition → Prop
  | correlated {statement : Statement} {condition : MatchCondition}
      (member : .matching condition ∈ statement.conditions) : Compares statement condition
  | join {statement query : Statement} {aliasName : String} {condition : MatchCondition}
      {comment : Option String}
      (member : .query query aliasName condition comment ∈ statement.sources) :
      Compares statement condition
  | inJoined {statement query : Statement} {aliasName : String} {join condition : MatchCondition}
      {comment : Option String}
      (member : .query query aliasName join comment ∈ statement.sources)
      (inner : Compares query condition) : Compares statement condition
  | inReference {statement query : Statement} {label : EntryLabel} {condition : MatchCondition}
      (member : .reference label query ∈ statement.select) (inner : Compares query condition) :
      Compares statement condition
  | inCollection {statement query : Statement} {label : EntryLabel} {condition : MatchCondition}
      (member : .collection label query ∈ statement.select) (inner : Compares query condition) :
      Compares statement condition

/-- The aliases of a condition are confused for one of the given aliases. -/
def MatchCondition.Confused (explicit : List String) (condition : MatchCondition) : Prop :=
  ∃ given ∈ explicit, Confuses given condition.parentAlias condition.childAlias

/-- Aliases that differ, each from each, also if case is ignored. -/
def DistinctIgnoringCase (aliases : List String) : Prop :=
  aliases.Pairwise fun a b => ¬ SameIgnoringCase a b

/-- Conditions are confused if they compare a table with itself. -/
def MatchCondition.Accounted (explicit : List String) (condition : MatchCondition) : Prop :=
  SameIgnoringCase condition.parentAlias condition.childAlias → condition.Confused explicit

theorem MatchCondition.Accounted.mono {explicit larger : List String} {condition : MatchCondition}
    (accounted : condition.Accounted explicit) (included : explicit ⊆ larger) :
    condition.Accounted larger := by
  intro same
  obtain ⟨given, member, confuses⟩ := accounted same
  exact ⟨given, included member, confuses⟩

/-! ### The aliases of a specification -/

namespace TableSpec

variable {spec : TableSpec}

/-- The aliases that are given to the tables around a table, not to the table itself. -/
def aliasesAround (spec : TableSpec) : List String :=
  spec.parents.flatMap (·.explicitAliases) ++ spec.children.flatMap (·.spec.explicitAliases)

theorem mem_explicitAliases {given : String} :
    given ∈ spec.explicitAliases ↔ given ∈ spec.aliasName ∨ given ∈ spec.aliasesAround := by
  rw [spec.explicitAliases_eq, List.mem_append, Option.mem_toList]
  rfl

theorem mem_aliasesAround_parent {parent : ParentTable} (member : parent ∈ spec.parents)
    {given : String} (inParent : given ∈ parent.explicitAliases) : given ∈ spec.aliasesAround :=
  List.mem_append_left _ (List.mem_flatMap.mpr ⟨parent, member, inParent⟩)

theorem mem_aliasesAround_child {child : ChildTable} (member : child ∈ spec.children)
    {given : String} (inChild : given ∈ child.spec.explicitAliases) : given ∈ spec.aliasesAround :=
  List.mem_append_right _ (List.mem_flatMap.mpr ⟨child, member, inChild⟩)

/-- If the aliases of a specification are distinct, its own differs from those around it, and these
are distinct too. -/
theorem distinct_around (distinct : DistinctIgnoringCase spec.explicitAliases) :
    DistinctIgnoringCase spec.aliasesAround ∧
      ∀ own ∈ spec.aliasName, ∀ given ∈ spec.aliasesAround, ¬ SameIgnoringCase own given := by
  unfold DistinctIgnoringCase at distinct
  rw [spec.explicitAliases_eq] at distinct
  obtain ⟨-, around, apart⟩ := List.pairwise_append.mp distinct
  refine ⟨around, ?_⟩
  intro own isOwn given isGiven
  exact apart own (Option.mem_toList.mpr isOwn) given isGiven

theorem distinct_parent (distinct : DistinctIgnoringCase spec.explicitAliases)
    {parent : ParentTable} (member : parent ∈ spec.parents) :
    DistinctIgnoringCase parent.spec.explicitAliases := by
  have parents := (List.pairwise_append.mp (distinct_around distinct).1).1
  have ofParent := (List.pairwise_flatMap.mp parents).1 parent member
  exact (List.pairwise_append.mp ofParent).2.1

theorem distinct_child (distinct : DistinctIgnoringCase spec.explicitAliases)
    {child : ChildTable} (member : child ∈ spec.children) :
    DistinctIgnoringCase child.spec.explicitAliases := by
  have children := (List.pairwise_append.mp (distinct_around distinct).1).2.1
  exact (List.pairwise_flatMap.mp children).1 child member

/-- A condition between a table and one around it, in either direction. The alias of the table is in
the scope in which the other alias was allocated. -/
theorem accounted_of_allocates (distinct : DistinctIgnoringCase spec.explicitAliases)
    {outer inner : AliasScope} {later : Option String} {a b : String}
    (base : Allocates outer spec.aliasName a) (other : Allocates inner later b)
    (seen : inner.contains a = true) (around : ∀ given ∈ later, given ∈ spec.aliasesAround)
    {condition : MatchCondition}
    (aliases : condition.parentAlias = a ∧ condition.childAlias = b ∨
      condition.parentAlias = b ∧ condition.childAlias = a) :
    condition.Accounted spec.explicitAliases := by
  have apart : ∀ own ∈ spec.aliasName, ∀ given ∈ later, ¬ SameIgnoringCase own given :=
    fun own isOwn given isGiven =>
      (distinct_around distinct).2 own isOwn given (around given isGiven)
  have known : ∀ given, given ∈ spec.aliasName ∨ given ∈ later → given ∈ spec.explicitAliases := by
    rintro given (isOwn | isGiven)
    · exact mem_explicitAliases.mpr (.inl isOwn)
    · exact mem_explicitAliases.mpr (.inr (around given isGiven))
  unfold MatchCondition.Accounted MatchCondition.Confused
  rcases aliases with ⟨parent, child⟩ | ⟨parent, child⟩
  · rw [parent, child]
    intro same
    obtain ⟨given, source, confuses⟩ := base.confuses_of_same other seen apart same
    exact ⟨given, known given source, confuses⟩
  · rw [parent, child]
    intro same
    obtain ⟨given, source, confuses⟩ := base.confuses_of_same other seen apart same.symm
    exact ⟨given, known given source, confuses.symm⟩

end TableSpec

/-! ### Statements -/

/-- A joined sub-query was allocated its alias in a scope that has all earlier ones. -/
theorem AllocatedJoins.of_mem {scope inner : AliasScope} {parents : List ParentTable}
    {joined : List FromEntry} (joins : AllocatedJoins scope parents joined inner)
    {visible : List String} (holds : scope.Holds visible) {query : Statement} {aliasName : String}
    {join : MatchCondition} {comment : Option String}
    (member : .query query aliasName join comment ∈ joined) :
    ∃ parent ∈ parents, ∃ within : AliasScope, within.Holds visible ∧
      Allocates within parent.link.subqueryAlias aliasName ∧
      Allocated (within.insert aliasName) parent.spec query := by
  induction parents generalizing scope joined with
  | nil =>
      cases joins
      cases member
  | cons parent parents ih =>
      cases joins with
      | @cons _ _ _ _ first firstAlias _ _ joined here within rest =>
          rcases List.mem_cons.mp member with equal | later
          · cases equal
            exact ⟨parent, List.mem_cons_self, scope, holds, here, within⟩
          · have grown : (scope.insert firstAlias).Holds visible := fun seen inVisible =>
              holds.insert firstAlias seen (List.mem_append_left _ inVisible)
            obtain ⟨other, inParents, found⟩ := ih rest grown later
            exact ⟨other, List.mem_cons_of_mem _ inParents, found⟩

/-- The alias of the base table of a statement is allocated as its specification says. -/
theorem Allocated.of_head? {scope : AliasScope} {spec : TableSpec} {statement : Statement}
    (allocated : Allocated scope spec statement) {relation : RelationId} {aliasName : String}
    (head : statement.sources.head? = some (.table relation aliasName)) :
    Allocates scope spec.aliasName aliasName := by
  obtain ⟨sources, base, -, -⟩ := allocated
  rw [sources] at head
  cases head
  exact base

/-- The conditions in a query of the select list: those inside it, and the one by which its rows
belong to a row of the enclosing statement. -/
theorem Allocated.accounted_of_query {spec nested : TableSpec}
    (distinct : DistinctIgnoringCase spec.explicitAliases) {outer inner : AliasScope}
    {query : Statement} {a b : String} (base : Allocates outer spec.aliasName a)
    (allocated : Allocated inner nested query) (seen : inner.contains a = true)
    (around : nested.explicitAliases ⊆ spec.aliasesAround) {relation : RelationId}
    (about : query.sources.head? = some (.table relation b)) {own : MatchCondition}
    (correlated : query.CorrelatedBy own)
    (aliases : own.parentAlias = a ∧ own.childAlias = b ∨
      own.parentAlias = b ∧ own.childAlias = a) {condition : MatchCondition}
    (inside : .matching condition ∈ query.conditions ∨
      condition.Accounted nested.explicitAliases) :
    condition.Accounted spec.explicitAliases := by
  rcases inside with outward | accounted
  · obtain rfl := (correlated condition).mp outward
    exact TableSpec.accounted_of_allocates distinct base (allocated.of_head? about) seen
      (fun given isGiven => around (TableSpec.mem_explicitAliases.mpr (.inl isGiven))) aliases
  · exact accounted.mono fun given isGiven =>
      TableSpec.mem_explicitAliases.mpr (.inr (around isGiven))

/-- **Given aliases never meet each other, nor do automatic ones.** A condition in a statement that
compares a table with itself is confused, unless it is about an enclosing row. -/
theorem Allocated.confused_of_same {catalog : Catalog} (spec : TableSpec) :
    ∀ scope statement, Allocated scope spec statement → WellScoped catalog statement →
      DistinctIgnoringCase spec.explicitAliases → ∀ condition, statement.Compares condition →
        .matching condition ∈ statement.conditions ∨
          condition.Accounted spec.explicitAliases := by
  induction spec using TableSpec.tree_induction with
  | step spec parentsAccounted childrenAccounted =>
      intro scope statement allocated inScope distinct condition compares
      cases allocated with
      | @intro _ inner _ _ relation aliasName joined sources base joins entries =>
      cases inScope with
      | @intro _ relation' aliasName' joined' sources' joinScoped entriesScoped _ _ _ =>
      obtain ⟨sameTable, rfl⟩ := List.cons.inj (sources.symm.trans sources')
      cases sameTable
      have ofParent : ∀ {parent : ParentTable}, parent ∈ spec.parents →
          parent.spec.explicitAliases ⊆ spec.aliasesAround :=
        fun inParents _ isGiven =>
          TableSpec.mem_aliasesAround_parent inParents (List.mem_append_right _ isGiven)
      have empty : scope.Holds [] := fun _ none => nomatch none
      have seen : (scope.insert aliasName).Holds [aliasName] := empty.insert aliasName
      have seenInside : inner.contains aliasName = true :=
        joins.holds_inner seen aliasName (List.mem_append_left _ List.mem_cons_self)
      have ofJoined : ∀ {query subqueryAlias join comment},
          FromEntry.query query subqueryAlias join comment ∈ statement.sources →
            .query query subqueryAlias join comment ∈ joined := by
        intro query subqueryAlias join comment member
        rw [sources] at member
        rcases List.mem_cons.mp member with impossible | later
        · cases impossible
        · exact later
      cases compares with
      | correlated member => exact .inl member
      | join member =>
          have inJoined := ofJoined member
          obtain ⟨parent, inSpec, within, holds, here, -⟩ := joins.of_mem seen inJoined
          have inParents := (List.mem_filter.mp inSpec).1
          have around : ∀ given ∈ parent.link.subqueryAlias, given ∈ spec.aliasesAround :=
            fun given isGiven => TableSpec.mem_aliasesAround_parent inParents
              (List.mem_append_left _ (Option.mem_toList.mpr isGiven))
          cases joinScoped _ inJoined with
          | intro _ _ child parentAlias _ =>
              exact .inr <| TableSpec.accounted_of_allocates distinct base here
                (holds aliasName List.mem_cons_self) around (.inr ⟨parentAlias, child⟩)
      | inJoined member inside =>
          have inJoined := ofJoined member
          obtain ⟨parent, inSpec, within, -, -, allocatedThere⟩ := joins.of_mem seen inJoined
          have inParents := (List.mem_filter.mp inSpec).1
          cases joinScoped _ inJoined with
          | intro scopedThere alone _ _ _ =>
              rcases parentsAccounted parent inParents _ _ allocatedThere scopedThere
                (TableSpec.distinct_parent distinct inParents) condition inside with own | accounted
              · exact absurd own (alone condition)
              · exact .inr <| accounted.mono fun given isGiven =>
                  TableSpec.mem_explicitAliases.mpr (.inr (ofParent inParents isGiven))
      | inReference member inside =>
          cases entries _ member with
          | @reference _ _ _ _ parent inSpec _ allocatedThere =>
          cases entriesScoped _ member with
          | reference scopedThere about correlated child _ =>
          have inParents := (List.mem_filter.mp inSpec).1
          have there := parentsAccounted parent inParents _ _ allocatedThere scopedThere
            (TableSpec.distinct_parent distinct inParents) condition inside
          exact .inr <| allocatedThere.accounted_of_query distinct base seenInside
            (ofParent inParents) about correlated (.inr ⟨rfl, child⟩) there
      | inCollection member inside =>
          cases entries _ member with
          | @collection _ _ _ _ child inSpec _ allocatedThere =>
          cases entriesScoped _ member with
          | collection scopedThere about correlated parent _ =>
          have there := childrenAccounted child inSpec _ _ allocatedThere scopedThere
            (TableSpec.distinct_child distinct inSpec) condition inside
          exact .inr <| allocatedThere.accounted_of_query distinct base seenInside
            (fun _ isGiven => TableSpec.mem_aliasesAround_child inSpec isGiven) about correlated
            (.inl ⟨parent, rfl⟩) there

/-! ### Queries -/

/-- The catalog in which every field exists. -/
def Catalog.full : Catalog := fun _ _ => True

theorem Catalog.full_hasName (relation : RelationId) (name : String) :
    Catalog.full.HasName relation name :=
  ⟨{ (default : Field) with name := name }, trivial, rfl⟩

theorem Catalog.full_hasPairs (child parent : RelationId) (pairs : List FieldPair) :
    Catalog.full.HasPairs child parent pairs :=
  fun _ _ => ⟨full_hasName _ _, full_hasName _ _⟩

/-- What a plan says about aliases does not depend on which fields exist. -/
theorem TablePlan.known_full (plan : TablePlan) : plan.Known Catalog.full := by
  induction plan using TablePlan.tree_induction with
  | step plan inlined references collections =>
      exact .intro (fun _ _ _ _ => trivial) (fun _ _ => Catalog.full_hasName _ _)
        (fun _ _ => Catalog.full_hasPairs _ _ _) (fun _ _ => Catalog.full_hasPairs _ _ _)
        (fun _ _ => Catalog.full_hasPairs _ _ _) inlined references collections

/-- **When a condition compares a table with itself.** If the aliases that a query gives differ,
also when case is ignored, then in its statements this happens just where a given alias meets an
automatic one that is its lower case form. -/
theorem compares_itself_iff_confused (r : Resolver) (query : Query)
    {statements : List (Representation × Statement)}
    (distinct : DistinctIgnoringCase query.table.explicitAliases)
    (made : query.statements r = .ok statements) :
    ∀ representation statement, (representation, statement) ∈ statements →
      ∀ condition, statement.Compares condition →
        (SameIgnoringCase condition.parentAlias condition.childAlias ↔
          condition.Confused query.table.explicitAliases) := by
  intro representation statement member condition compares
  have allocated := Query.allocated_of_statements made member
  obtain ⟨plan, planned, rfl⟩ :=
    Query.statement_eq_ok (Query.statement_of_mem_statements made member)
  have planScoped : WellScoped Catalog.full (plan.statement { orderBy := query.orderBy }) :=
    plan.known_full.wellScoped _ (fun _ _ => Catalog.full_hasName _ _)
  have same := query.represent_sameRows (plan.statement { orderBy := query.orderBy }) representation
  have inScope : WellScoped Catalog.full (query.represent _ representation) :=
    planScoped.congr same
  constructor
  · intro alike
    rcases Allocated.confused_of_same query.table _ _ allocated inScope distinct condition
      compares with own | accounted
    · rw [same.conditions] at own
      exact absurd own (TablePlan.uncorrelated_statement rfl condition)
    · exact accounted alike
  · rintro ⟨given, -, confuses⟩
    exact confuses.same

/-- Drugs under a given alias, with compounds and advisories under automatic ones. -/
def Pharmacy.aliasedDrugQuery (aliasName : String) : Query :=
  { drugQuery with
    table := ⟨"drug", some aliasName, [.named "name"], [inlineParent none compounds],
      [children "advisories" false advisories], none, none⟩ }

/-- Drugs as `dr`. No automatic alias looks like this, so no condition is about one table. -/
theorem aliased_drugs_compare_different_tables :
    DistinctIgnoringCase (Pharmacy.aliasedDrugQuery "dr").table.explicitAliases ∧
    ∃ statements, (Pharmacy.aliasedDrugQuery "dr").statements Pharmacy.resolver = .ok statements ∧
      statements.map Prod.fst = [.jsonObjectRows, .jsonArrayRow] ∧
      ∀ representation statement, (representation, statement) ∈ statements →
        ∀ condition, statement.Compares condition →
          ¬ SameIgnoringCase condition.parentAlias condition.childAlias := by
  have distinct :
      DistinctIgnoringCase (Pharmacy.aliasedDrugQuery "dr").table.explicitAliases :=
    List.pairwise_singleton _ _
  have representations : ((Pharmacy.aliasedDrugQuery "dr").statements Pharmacy.resolver).map
      (·.map Prod.fst) = .ok [.jsonObjectRows, .jsonArrayRow] := by
    decide +kernel
  obtain ⟨statements, made, wanted⟩ := map_eq_ok.mp representations
  refine ⟨distinct, statements, made, wanted, ?_⟩
  intro representation statement member condition compares same
  obtain ⟨given, isGiven, automatic, -⟩ := (compares_itself_iff_confused Pharmacy.resolver
    (Pharmacy.aliasedDrugQuery "dr") distinct made representation statement member condition
    compares).mp same
  obtain rfl : given = "dr" := List.mem_singleton.mp isGiven
  exact absurd automatic.mem_mark (by decide +kernel)

/-- The conditions by which the collections of a statement belong to its rows. -/
def Statement.collectionConditions (statement : Statement) : List MatchCondition :=
  statement.select.flatMap fun
    | .collection _ query => query.conditions.filterMap fun
      | .matching condition => some condition
      | .condition .. => none
    | _ => []

theorem Statement.compares_of_mem_collectionConditions {statement : Statement}
    {condition : MatchCondition} (member : condition ∈ statement.collectionConditions) :
    statement.Compares condition := by
  obtain ⟨entry, inSelect, inEntry⟩ := List.mem_flatMap.mp member
  cases entry with
  | collection label query =>
      obtain ⟨other, inConditions, chosen⟩ := List.mem_filterMap.mp inEntry
      cases other with
      | matching correlation =>
          cases chosen
          exact .inCollection inSelect (.correlated inConditions)
      | condition sql placeholder tableAlias => cases chosen
  | _ => cases inEntry

/-- Drugs as `A_`. This differs from the automatic alias `a_` of their advisories as a text only,
and so the condition that should find the advisories of a drug is about advisories alone. -/
theorem shouted_alias_compares_itself :
    DistinctIgnoringCase (Pharmacy.aliasedDrugQuery "A_").table.explicitAliases ∧
    ∃ statements, (Pharmacy.aliasedDrugQuery "A_").statements Pharmacy.resolver = .ok statements ∧
      ∃ representation statement, (representation, statement) ∈ statements ∧
        ∃ condition, statement.Compares condition ∧
          condition.parentAlias = "A_" ∧ condition.childAlias = "a_" ∧
          SameIgnoringCase condition.parentAlias condition.childAlias := by
  have conditions : ((Pharmacy.aliasedDrugQuery "A_").statements Pharmacy.resolver).map
      (·.flatMap (·.2.collectionConditions)) =
        .ok (List.replicate 2 ⟨"A_", "a_", [⟨"drug_id", "id"⟩], false⟩) := by
    decide +kernel
  obtain ⟨statements, made, wanted⟩ := map_eq_ok.mp conditions
  have found : ⟨"A_", "a_", [⟨"drug_id", "id"⟩], false⟩ ∈
      statements.flatMap (·.2.collectionConditions) := by
    rw [wanted]
    exact List.mem_cons_self
  obtain ⟨⟨representation, statement⟩, member, inStatement⟩ := List.mem_flatMap.mp found
  exact ⟨List.pairwise_singleton _ _, statements, made, representation, statement, member, _,
    Statement.compares_of_mem_collectionConditions inStatement, rfl, rfl, by decide +kernel⟩

end NestedQuery
