import NestedQuery.Proofs.AliasConfusion
import NestedQuery.Proofs.Spelling
import NestedQuery.Proofs.SqlTokens

/-!
# Names as they are written into SQL

A stored name is written as it is if the database reads it so, and between delimiters otherwise. A
name that a user writes is first turned into the stored name that it stands for. What the database
reads in the end is that stored name, as long as no quotes are in it.

## Main Definitions

* `Dialect.ReadsPlain`: names that the database reads as they are
* `Dialect.identified`: the stored name for which an identifier stands
* `Quoteless`: names without quotes in them
* `Dialect.Means`: the stored name for which a name stands as users write it
* `Dialect.StoresBy`: the case policies of the databases

## Main Results

* `Dialect.quoteIfNeeded_cases`: how a name is written
* `Dialect.readIdentifier_quoteIfNeeded_iff`: which names are read back
* `Quoteless.foldPlain`: the letter case of a name does not bring quotes into it
* `emitted_names_denote_stored_names`: what is read back from names that users write
-/

namespace NestedQuery

namespace Dialect

variable {dialect : Dialect} {name : String} {after : List Char}

/-! ### Reading names back -/

/-- A name that is not delimited yet. -/
def Bare (dialect : Dialect) (name : String) : Prop :=
  Name.isQuoted name = false ∧ (dialect = mysql → isBackticked name.toList = false)

/-- A name that the database reads as it is. -/
structure ReadsPlain (dialect : Dialect) (name : String) : Prop where
  form : hasForm dialect.opensPlain dialect.continuesPlain name = true
  free : isKeyword name = false
  folded : dialect.foldPlain name = name

theorem hasForm_iff {first other : Char → Bool} :
    hasForm first other name = true ↔
      ∃ c cs, name.toList = c :: cs ∧ first c = true ∧ ∀ c ∈ cs, other c = true := by
  unfold hasForm
  cases name.toList with
  | nil => simp
  | cons c cs => simp

theorem hasForm_mono {first other first' other' : Char → Bool}
    (formed : hasForm first other name = true)
    (firsts : ∀ c, first c = true → first' c = true)
    (others : ∀ c, other c = true → other' c = true) : hasForm first' other' name = true := by
  obtain ⟨c, cs, split, opens, continues⟩ := hasForm_iff.mp formed
  exact hasForm_iff.mpr
    ⟨c, cs, split, firsts c opens, fun c member => others c (continues c member)⟩

theorem forall_of_hasForm {first other : Char → Bool} {p : Char → Prop}
    (formed : hasForm first other name = true)
    (firsts : ∀ c, first c = true → p c) (others : ∀ c, other c = true → p c) :
    ∀ c ∈ name.toList, p c := by
  obtain ⟨c, cs, split, opens, continues⟩ := hasForm_iff.mp formed
  rw [split]
  intro each member
  rcases List.mem_cons.mp member with rfl | later
  · exact firsts each opens
  · exact others each (continues each later)

/-- What holds of the characters of a word in one letter case, by a check of ASCII characters. -/
theorem forall_of_caseForm {letter : Char → Bool} {p : Char → Prop}
    (letters : ∀ c, letter c = true → c.isAlpha = true)
    (checked : ∀ n < 0x80, (letter (Char.ofNat n) || (Char.ofNat n).isDigit ||
      Char.ofNat n == '_') = true → p (Char.ofNat n))
    (formed : hasForm (fun c => letter c || c == '_')
      (fun c => letter c || c.isDigit || c == '_') name = true) :
    ∀ c ∈ name.toList, p c := by
  -- Only so many characters are to be checked, as none of these kinds is outside ASCII.
  have each : ∀ c, (letter c || c.isDigit || c == '_') = true → p c := by
    intro c kind
    have ascii : c.toNat < 0x80 := by
      rcases Bool.or_eq_true_iff.mp kind with alphanum | underscore
      · refine Text.toNat_lt_of_isAlphanum ?_
        rcases Bool.or_eq_true_iff.mp alphanum with alpha | digit
        · rw [Char.isAlphanum, letters c alpha, Bool.true_or]
        · rw [Char.isAlphanum, digit, Bool.or_true]
      · rw [beq_iff_eq.mp underscore]
        decide
    have holds := checked c.toNat ascii
    rw [Char.ofNat_toNat] at holds
    exact holds kind
  refine forall_of_hasForm formed (fun c first => each c ?_) each
  rcases Bool.or_eq_true_iff.mp first with alpha | underscore
  · rw [alpha, Bool.true_or, Bool.true_or]
  · rw [underscore, Bool.or_true]

theorem toLower_of_isLowerCase (lower : isLowerCase name = true) : Text.toLower name = name := by
  refine Text.toLower_of_plain (forall_of_caseForm ?_ ?_ lower)
  · intro c letter
    exact Bool.or_eq_true_iff.mpr (.inr letter)
  · unfold Text.IsPlain
    decide

theorem toUpper_of_isUpperCase (upper : isUpperCase name = true) : Text.toUpper name = name := by
  have same : ∀ c ∈ name.toList, Text.upperChar c = [c] := by
    refine forall_of_caseForm ?_ (by decide) upper
    intro c letter
    exact Bool.or_eq_true_iff.mpr (.inl letter)
  rw [Text.toUpper, List.flatMap_congr same, List.flatMap_singleton', String.ofList_toList]

theorem form_of_isLowerCase (lower : isLowerCase name = true) :
    hasForm postgres.opensPlain postgres.continuesPlain name = true := by
  refine hasForm_mono lower (fun c first => ?_) fun c other => ?_
  · rw [Bool.or_eq_true] at first
    rcases first with letter | underscore
    · have alpha : c.isAlpha = true := Bool.or_eq_true_iff.mpr (.inr letter)
      simp [opensPlain, alpha]
    · simp [opensPlain, underscore]
  · rw [Bool.or_eq_true, Bool.or_eq_true] at other
    rcases other with (letter | digit) | underscore
    · have alpha : c.isAlpha = true := Bool.or_eq_true_iff.mpr (.inr letter)
      simp [continuesPlain, Char.isAlphanum, alpha]
    · simp [continuesPlain, Char.isAlphanum, digit]
    · simp [continuesPlain, underscore]

theorem form_of_isSimple (simple : isSimple name = true) :
    hasForm dialect.opensPlain dialect.continuesPlain name = true := by
  refine hasForm_mono simple (fun c first => ?_) fun c other => ?_
  · simp [opensPlain, first]
  · rw [Bool.or_eq_true] at other
    rcases other with alphanum | underscore
    · simp [continuesPlain, alphanum]
    · simp [continuesPlain, underscore]

theorem toList_inBackticks (name : String) :
    (inBackticks name).toList = backtick :: (name.toList ++ [backtick]) := by
  simp [inBackticks]

/-- A name is written as it is only if the database reads it so. -/
theorem quoteIfNeeded_cases (bare : dialect.Bare name) :
    (dialect.quoteIfNeeded name = name ∧ dialect.ReadsPlain name) ∨
      (dialect.quoteIfNeeded name).toList =
        dialect.delimiter :: (name.toList ++ [dialect.delimiter]) := by
  obtain ⟨unquoted, unticked⟩ := bare
  cases dialect with
  | postgres =>
      rw [quoteIfNeeded, unquoted, Bool.false_or]
      split
      · rename_i plain
        rw [Bool.and_eq_true, Bool.not_eq_true'] at plain
        exact .inl ⟨rfl, form_of_isLowerCase plain.1, plain.2, toLower_of_isLowerCase plain.1⟩
      · exact .inr (Name.toList_quote name)
  | oracle =>
      rw [quoteIfNeeded, unquoted, Bool.false_or]
      split
      · rename_i plain
        rw [Bool.and_eq_true, Bool.and_eq_true, Bool.not_eq_true'] at plain
        obtain ⟨⟨simple, upper⟩, free⟩ := plain
        exact .inl ⟨rfl, form_of_isSimple simple, free, toUpper_of_isUpperCase upper⟩
      · exact .inr (Name.toList_quote name)
  | mysql =>
      rw [quoteIfNeeded, unticked rfl, unquoted, if_neg Bool.false_ne_true,
        if_neg Bool.false_ne_true]
      split
      · exact .inr (toList_inBackticks name)
      · rename_i plain
        rw [Bool.or_eq_true, not_or, Bool.not_eq_true', Bool.not_eq_false,
          Bool.not_eq_true] at plain
        exact .inl ⟨rfl, form_of_isSimple plain.1, plain.2, rfl⟩

/-- What may follow an identifier. -/
def Ends (dialect : Dialect) (after : List Char) : Prop :=
  ∀ c ∈ after.head?, c ≠ dialect.delimiter ∧ dialect.continuesPlain c = false

theorem ends_nil : dialect.Ends [] := by
  intro c member
  cases member

theorem Ends.takeWhile_eq (ends : dialect.Ends after) :
    after.takeWhile dialect.continuesPlain = [] ∧
      after.dropWhile dialect.continuesPlain = after := by
  cases after with
  | nil => exact ⟨rfl, rfl⟩
  | cons c after =>
      have stops := (ends c rfl).2
      exact ⟨List.takeWhile_cons_of_neg (by simp [stops]),
        List.dropWhile_cons_of_neg (by simp [stops])⟩

theorem ReadsPlain.read (plain : dialect.ReadsPlain name) (ends : dialect.Ends after)
    {delimiter : Char} (other : dialect.opensPlain delimiter = false) :
    dialect.readIdentifier delimiter (name.toList ++ after) = some (name.toList, after) := by
  obtain ⟨c, cs, split, opens, continues⟩ := hasForm_iff.mp plain.form
  obtain ⟨taken, dropped⟩ := ends.takeWhile_eq
  have differs : c ≠ delimiter := by
    rintro rfl
    rw [opens] at other
    cases other
  have word : String.ofList (c :: cs) = name := by rw [← split, String.ofList_toList]
  rw [split, List.cons_append, readIdentifier, if_neg differs,
    List.takeWhile_append_of_pos continues, taken, List.append_nil,
    List.dropWhile_append_of_pos continues, dropped]
  simp only [word, opens, plain.free, plain.folded, split]
  rfl

/-- Characters of other kinds do not occur in a plain identifier. -/
theorem ReadsPlain.not_mem (plain : dialect.ReadsPlain name) {c : Char}
    (outside : (dialect.opensPlain c || dialect.continuesPlain c) = false) : c ∉ name.toList := by
  intro member
  have allowed : ∀ c ∈ name.toList, (dialect.opensPlain c || dialect.continuesPlain c) = true :=
    forall_of_hasForm plain.form (fun c opens => by rw [opens, Bool.true_or])
      fun c continues => by rw [continues, Bool.or_true]
  rw [allowed c member] at outside
  cases outside

theorem delimiter_ne_space : dialect.delimiter ≠ ' ' := by
  cases dialect <;> decide

/-- **Which names are read back from an identifier.** -/
theorem readIdentifier_quoteIfNeeded_iff (bare : dialect.Bare name) (nonempty : name ≠ "")
    (ends : dialect.Ends after) :
    dialect.readIdentifier dialect.delimiter ((dialect.quoteIfNeeded name).toList ++ after) =
        some (name.toList, after) ↔
      dialect.delimiter ∉ name.toList := by
  rcases quoteIfNeeded_cases bare with ⟨asItIs, plain⟩ | quoted
  · have outside : (dialect.opensPlain dialect.delimiter ||
        dialect.continuesPlain dialect.delimiter) = false := by
      cases dialect <;> decide
    rw [asItIs, plain.read ends (Bool.or_eq_false_iff.mp outside).1]
    exact ⟨fun _ => plain.not_mem outside, fun _ => rfl⟩
  · have closes : after.head? ≠ some dialect.delimiter := fun again => (ends _ again).1 rfl
    have named : name.toList.isEmpty = false := by simpa using nonempty
    rw [quoted, List.cons_append, List.append_assoc, List.singleton_append, readIdentifier,
      if_pos rfl, Option.filter_eq_some_iff,
      readDelimited_eq_some_iff delimiter_ne_space closes]
    simp only [List.append_cancel_right_eq, named, Bool.not_false, and_true]
    rw [eq_comm, doubled_eq_self_iff]

/-- The stored name for which a text stands that is an identifier as a whole. -/
def identified (dialect : Dialect) (delimiter : Char) (text : String) : Option String :=
  match dialect.readIdentifier delimiter text.toList with
  | some (stored, []) => some (String.ofList stored)
  | _ => none

theorem identified_of_read {delimiter : Char} {text stored : String}
    (read : dialect.readIdentifier delimiter text.toList = some (stored.toList, [])) :
    dialect.identified delimiter text = some stored := by
  unfold identified
  rw [read]
  exact congrArg some String.ofList_toList

end Dialect

/-! ### Letter case and quotes -/

/-- A name without double quotes and backticks. -/
def Quoteless (name : String) : Prop :=
  '"' ∉ name.toList ∧ Dialect.backtick ∉ name.toList

instance (name : String) : Decidable (Quoteless name) :=
  inferInstanceAs (Decidable (_ ∧ _))

namespace Text

/-- A case mapping, by its ASCII part, its expansions and its distances, that leads to a character
from no other one. -/
structure Spares (ascii : Char → Char) (expansions : List (Nat × List Nat)) (shifts : List Shift)
    (mark : Char) : Prop where
  positive : 0 < mark.toNat
  letters : ∀ n < 0x80, ascii (Char.ofNat n) = mark → Char.ofNat n = mark
  forms : ∀ row ∈ expansions, mark.toNat ∉ row.2
  images : ∀ shift ∈ shifts, (mark.toNat : Int) < shift.run.first + shift.distance ∨
    shift.run.first = shift.run.last ∧ (shift.run.first : Int) + shift.distance ≠ mark.toNat

theorem code_of_ofNat {n : Nat} {mark : Char} (same : Char.ofNat n = mark)
    (positive : 0 < mark.toNat) : n = mark.toNat := by
  subst same
  by_cases valid : n.isValidChar
  · rw [Char.ofNat, dif_pos valid]
    rfl
  · rw [Char.ofNat, dif_neg valid] at positive
    exact absurd positive (by decide)

theorem mem_of_lookup {rows : List (Nat × List Nat)} {code : Nat} {form : List Nat}
    (found : rows.lookup code = some form) : (code, form) ∈ rows := by
  obtain ⟨before, after, rfl, -⟩ := List.lookup_eq_some_iff.mp found
  exact List.mem_append_right before List.mem_cons_self

theorem Spares.eq_of_mem {ascii : Char → Char} {expansions : List (Nat × List Nat)}
    {shifts : List Shift} {mark c : Char} (spares : Spares ascii expansions shifts mark)
    (member : mark ∈ if c.toNat < 0x80 then [ascii c] else mapChar expansions shifts c) :
    c = mark := by
  split at member
  · rename_i small
    have checked := spares.letters c.toNat small
    rw [Char.ofNat_toNat] at checked
    exact checked (List.mem_singleton.mp member).symm
  unfold mapChar at member
  split at member
  · rename_i form found
    obtain ⟨n, among, same⟩ := List.mem_map.mp member
    rw [code_of_ofNat same spares.positive] at among
    exact absurd among (spares.forms _ (mem_of_lookup found))
  rw [List.mem_singleton, shiftChar] at member
  split at member
  · rename_i shift found
    have positive := spares.positive
    have image := code_of_ofNat member.symm positive
    have inRun := List.find?_some found
    simp only [Run.contains, Bool.and_eq_true, decide_eq_true_eq] at inRun
    -- All images of the run lie above the mark, or it has a single one, which differs.
    rcases spares.images shift (List.mem_of_find?_eq_some found) with above | ⟨single, other⟩
    · omega
    · omega
  · exact member.symm

/-- The quotes around identifiers. -/
def IsQuote (mark : Char) : Prop :=
  mark = '"' ∨ mark = Dialect.backtick

namespace IsQuote

variable {mark : Char} (quote : IsQuote mark)
include quote

theorem spares_lower : Spares Char.toLower lowerExpansions lowerShifts mark := by
  rcases quote with rfl | rfl
  · exact ⟨by decide, by decide, by decide, by decide +kernel⟩
  · exact ⟨by decide, by decide, by decide, by decide +kernel⟩

theorem spares_upper : Spares Char.toUpper upperExpansions upperShifts mark := by
  rcases quote with rfl | rfl
  · exact ⟨by decide, by decide, by decide +kernel, by decide +kernel⟩
  · exact ⟨by decide, by decide, by decide +kernel, by decide +kernel⟩

theorem mem_of_lowerAfter {before cs : List Char} (member : mark ∈ lowerAfter before cs) :
    mark ∈ cs := by
  induction cs generalizing before with
  | nil => cases member
  | cons c cs ih =>
      rw [lowerAfter, List.mem_append] at member
      rcases member with first | later
      · split at first
        · -- Neither form of the sigma is a quote.
          rw [List.mem_singleton] at first
          subst first
          unfold IsQuote at quote
          split at quote <;> exact absurd quote (by decide)
        · rw [quote.spares_lower.eq_of_mem first]
          exact List.mem_cons_self
      · exact List.mem_cons_of_mem _ (ih later)

theorem mem_of_toUpper {name : String} (member : mark ∈ (toUpper name).toList) :
    mark ∈ name.toList := by
  rw [toUpper, String.toList_ofList, List.mem_flatMap] at member
  obtain ⟨c, among, first⟩ := member
  rwa [← quote.spares_upper.eq_of_mem first]

end IsQuote

theorem mapChar_ne_nil {expansions : List (Nat × List Nat)} {shifts : List Shift}
    (forms : ∀ row ∈ expansions, row.2 ≠ []) (c : Char) : mapChar expansions shifts c ≠ [] := by
  unfold mapChar
  split
  · rename_i form found
    intro empty
    exact forms _ (mem_of_lookup found) (List.map_eq_nil_iff.mp empty)
  · exact List.cons_ne_nil _ _

theorem lowerChar_ne_nil (c : Char) : lowerChar c ≠ [] := by
  unfold lowerChar
  split
  · exact List.cons_ne_nil _ _
  · exact mapChar_ne_nil (by decide) c

theorem upperChar_ne_nil (c : Char) : upperChar c ≠ [] := by
  unfold upperChar
  split
  · exact List.cons_ne_nil _ _
  · exact mapChar_ne_nil (by decide +kernel) c

end Text

section Folding

variable {dialect : Dialect} {name : String}

/-- **The letter case of a name brings no quotes into it.** -/
theorem Quoteless.foldPlain (quoteless : Quoteless name) : Quoteless (dialect.foldPlain name) := by
  have lower : ∀ mark, Text.IsQuote mark → mark ∈ (Text.toLower name).toList →
      mark ∈ name.toList := by
    intro mark quote member
    rw [Text.toLower, String.toList_ofList] at member
    exact quote.mem_of_lowerAfter member
  cases dialect with
  | postgres =>
      exact ⟨fun member => quoteless.1 (lower _ (.inl rfl) member),
        fun member => quoteless.2 (lower _ (.inr rfl) member)⟩
  | oracle =>
      exact ⟨fun member => quoteless.1 (Text.IsQuote.mem_of_toUpper (.inl rfl) member),
        fun member => quoteless.2 (Text.IsQuote.mem_of_toUpper (.inr rfl) member)⟩
  | mysql => exact quoteless

theorem Dialect.foldPlain_ne_empty (nonempty : name ≠ "") : dialect.foldPlain name ≠ "" := by
  obtain ⟨c, cs, split⟩ : ∃ c cs, name.toList = c :: cs := by
    apply List.exists_cons_of_ne_nil
    simpa using nonempty
  cases dialect with
  | postgres =>
      intro empty
      rw [foldPlain, Text.toLower, split, String.ofList_eq_empty_iff, Text.lowerAfter,
        List.append_eq_nil_iff] at empty
      have first := empty.1
      split at first
      · cases first
      · exact Text.lowerChar_ne_nil c first
  | oracle =>
      intro empty
      rw [foldPlain, Text.toUpper, split, String.ofList_eq_empty_iff, List.flatMap_cons,
        List.append_eq_nil_iff] at empty
      exact Text.upperChar_ne_nil c empty.1
  | mysql => exact nonempty

end Folding

/-! ### Names that users write -/

namespace Dialect

/-- The case policy by which a database stores names. -/
inductive StoresBy : Dialect → CasePolicy → Prop
  | postgres : StoresBy .postgres .storedLower
  | oracle : StoresBy .oracle .storedUpper
  | mysqlMixed : StoresBy .mysql .storedMixed
  | mysqlSensitive : StoresBy .mysql .sensitive

/-- The stored name for which a name stands as users write it: in the letter case of the database,
or between double quotes. -/
inductive Means (dialect : Dialect) : String → String → Prop
  | plain {name : String} (quoteless : Quoteless name) (nonempty : name ≠ "") :
      Means dialect name (dialect.foldPlain name)
  | quoted {name : String} (quoteless : Quoteless name) (nonempty : name ≠ "") :
      Means dialect (Name.quote name) name

variable {dialect : Dialect} {policy : CasePolicy} {name written stored : String}

theorem StoresBy.fold_eq (stores : dialect.StoresBy policy) (name : String) :
    policy.fold name = dialect.foldPlain name := by
  cases stores <;> rfl

theorem isQuoted_of_quoteless (quoteless : Quoteless name) : Name.isQuoted name = false := by
  unfold Name.isQuoted Name.isQuotedChars
  split
  · rename_i rest split
    exact absurd (by rw [split]; exact List.mem_cons_self) quoteless.1
  · rfl

theorem isBackticked_of_quoteless (quoteless : Quoteless name) :
    isBackticked name.toList = false := by
  unfold isBackticked
  split
  · rename_i c rest split
    have other : c ≠ backtick := by
      rintro rfl
      exact quoteless.2 (by rw [split]; exact List.mem_cons_self)
    rw [beq_eq_false_iff_ne.mpr other, Bool.false_and]
  · rfl

theorem delimiter_of_quoteless (quoteless : Quoteless name) :
    dialect.delimiter ∉ name.toList := by
  cases dialect with
  | postgres => exact quoteless.1
  | oracle => exact quoteless.1
  | mysql => exact quoteless.2

/-- **A stored name without quotes is read back.** -/
theorem identified_quoteIfNeeded (quoteless : Quoteless name) (nonempty : name ≠ "") :
    dialect.identified dialect.delimiter (dialect.quoteIfNeeded name) = some name := by
  have bare : dialect.Bare name :=
    ⟨isQuoted_of_quoteless quoteless, fun _ => isBackticked_of_quoteless quoteless⟩
  apply identified_of_read
  rw [← List.append_nil (dialect.quoteIfNeeded name).toList]
  exact (readIdentifier_quoteIfNeeded_iff bare nonempty ends_nil).mpr
    (delimiter_of_quoteless quoteless)

/-- The stored name for which a name stands has no quotes, and is found under the case policy. -/
theorem Means.exact (means : dialect.Means written stored) (stores : dialect.StoresBy policy) :
    policy.exact written = stored ∧ Quoteless stored ∧ stored ≠ "" := by
  cases means with
  | plain quoteless nonempty =>
      refine ⟨?_, quoteless.foldPlain, foldPlain_ne_empty nonempty⟩
      rw [CasePolicy.exact, isQuoted_of_quoteless quoteless, if_neg Bool.false_ne_true,
        stores.fold_eq]
  | quoted quoteless nonempty => exact ⟨policy.exact_quote stored, quoteless, nonempty⟩

theorem identified_quote (quoteless : Quoteless name) (nonempty : name ≠ "") :
    dialect.identified '"' (Name.quote name) = some name := by
  have closes : ([] : List Char).head? ≠ some '"' := nofun
  have once : doubled '"' name.toList = name.toList := doubled_eq_self_iff.mpr quoteless.1
  apply identified_of_read
  rw [Name.toList_quote, readIdentifier, if_pos rfl, Option.filter_eq_some_iff,
    readDelimited_eq_some_iff (by decide) closes, once]
  exact ⟨rfl, by simpa using nonempty⟩

/-- A word that is an identifier as a whole is read in the letter case of the database. -/
theorem eq_foldPlain_of_identified (quoteless : Quoteless name) {read : String}
    (identified : dialect.identified '"' name = some read) : read = dialect.foldPlain name := by
  unfold Dialect.identified at identified
  split at identified
  · rename_i stored found
    cases identified
    unfold readIdentifier at found
    split at found
    · cases found
    · rename_i c cs split
      have other : c ≠ '"' := by
        rintro rfl
        exact quoteless.1 (by rw [split]; exact List.mem_cons_self)
      simp only [if_neg other] at found
      split at found
      · rw [Option.some.injEq, Prod.mk.injEq] at found
        obtain ⟨folded, whole⟩ := found
        have word : cs.takeWhile dialect.continuesPlain = cs := by
          have parts := List.takeWhile_append_dropWhile (p := dialect.continuesPlain) (l := cs)
          rwa [whole, List.append_nil] at parts
        rw [← folded, word, ← split, String.ofList_toList, String.ofList_toList]
      · cases found
  · cases identified

/-- What the database itself reads in a name as users write it is the name that is meant. -/
theorem Means.eq_of_identified (means : dialect.Means written stored) {read : String}
    (identified : dialect.identified '"' written = some read) : read = stored := by
  cases means with
  | plain quoteless nonempty => exact eq_foldPlain_of_identified quoteless identified
  | quoted quoteless nonempty =>
      rw [identified_quote quoteless nonempty] at identified
      exact (Option.some.inj identified).symm

end Dialect

/-- **Names denote what they stand for.** Every database reads a stored name without quotes back
from how it is written. So it reads the stored name for which a name stands that a user wrote, which
is the one that it would read in that name itself, and different stored names are written
differently. -/
theorem emitted_names_denote_stored_names (dialect : Dialect) (policy : CasePolicy)
    (stores : dialect.StoresBy policy) :
    (∀ stored, stored ≠ "" → Quoteless stored →
        dialect.identified dialect.delimiter (dialect.quoteIfNeeded stored) = some stored) ∧
      (∀ written stored, dialect.Means written stored →
        dialect.identified dialect.delimiter (dialect.quoteIfNeeded (policy.exact written)) =
            some stored ∧
          ∀ read, dialect.identified '"' written = some read → read = stored) ∧
      ∀ one other, one ≠ "" → Quoteless one → other ≠ "" → Quoteless other →
        dialect.quoteIfNeeded one = dialect.quoteIfNeeded other → one = other := by
  refine ⟨?_, ?_, ?_⟩
  · intro stored nonempty quoteless
    exact Dialect.identified_quoteIfNeeded quoteless nonempty
  · intro written stored means
    obtain ⟨exact, quoteless, nonempty⟩ := means.exact stores
    rw [exact]
    exact ⟨Dialect.identified_quoteIfNeeded quoteless nonempty,
      fun read identified => means.eq_of_identified identified⟩
  · intro one other oneNonempty oneQuoteless otherNonempty otherQuoteless same
    have first : dialect.identified dialect.delimiter (dialect.quoteIfNeeded one) = some one :=
      Dialect.identified_quoteIfNeeded oneQuoteless oneNonempty
    rw [same, Dialect.identified_quoteIfNeeded otherQuoteless otherNonempty] at first
    exact (Option.some.inj first).symm

/-- In Oracle the name `order` stands for a stored name that is also a keyword. -/
theorem oracle_reads_order_back :
    Dialect.oracle.StoresBy .storedUpper ∧ Dialect.oracle.Means "order" "ORDER" ∧
      Quoteless "first name" ∧ Quoteless "order" ∧ Quoteless "ORDER" ∧
      Dialect.oracle.identified '"' (Dialect.oracle.quoteIfNeeded "first name") =
        some "first name" ∧
      Dialect.oracle.identified '"' (Dialect.oracle.quoteIfNeeded
        (CasePolicy.storedUpper.exact "order")) = some "ORDER" ∧
      Dialect.oracle.quoteIfNeeded "order" ≠ Dialect.oracle.quoteIfNeeded "ORDER" := by
  have means : Dialect.oracle.Means "order" "ORDER" := by
    have folded : Dialect.oracle.foldPlain "order" = "ORDER" := by decide
    rw [← folded]
    exact .plain (by decide) (by decide)
  obtain ⟨stored, written, distinct⟩ :=
    emitted_names_denote_stored_names .oracle .storedUpper .oracle
  refine ⟨.oracle, means, by decide, by decide, by decide, ?_, ?_, ?_⟩
  · exact stored "first name" (by decide) (by decide)
  · exact (written "order" "ORDER" means).1
  · intro same
    have equal := distinct "order" "ORDER" (by decide) (by decide) (by decide) (by decide) same
    exact absurd equal (by decide)

end NestedQuery
