import Mathlib.Algebra.Group.Nat.Even
import NestedQuery.Proofs.Spelling

/-!
# Table names are cut at their separating dots

A dot of a text separates if an even number of double quotes precede it. This can be told from
the text and the place of the dot alone. The reader of table names instead goes through the
text once and keeps whether a quote is open. Both cut the text at the same places, and a table
name is refused exactly if it has too many pieces or an empty one. Quotes may be unbalanced or
stand in the middle of a piece.

## Main Definitions

* `QualifiedName.SeparatesAt`: a dot that separates, by its place in the text
* `QualifiedName.cut`: a text cut at the places of its separating dots
* `QualifiedName.texts`: the parts that a table name was read as

## Main Results

* `QualifiedName.between_separators`: what is cut from the rest of a text, after a part of it
  is read
* `QualifiedName.pieces_eq_cut`: reading once through a text cuts it at its separating dots
* `QualifiedName.not_separatesAt_of_mem_cut`, `QualifiedName.intercalate_cut`: the pieces have
  no separating dots, and joined by dots they are the text
* `QualifiedName.table_names_are_cut_at_separating_dots`: which table names are read, and as
  what
-/

namespace NestedQuery

namespace QualifiedName

/-! ### Separating dots -/

/-- There is a dot at this place, and an even number of double quotes precede it. -/
def SeparatesAt (cs : List Char) (k : Nat) : Prop :=
  cs[k]? = some '.' ∧ Even ((cs.take k).count '"')

instance (cs : List Char) (k : Nat) : Decidable (SeparatesAt cs k) :=
  inferInstanceAs (Decidable (_ ∧ _))

/-- The places of the separating dots of a text, from a place on. -/
def separatorsFrom (cs : List Char) (start : Nat) : List Nat :=
  (List.range' start (cs.length - start)).filter (SeparatesAt cs ·)

/-- The places of the separating dots of a text. -/
def separators (cs : List Char) : List Nat := separatorsFrom cs 0

/-- What is between the given places of a text, from a place on. -/
def between (cs : List Char) (start : Nat) : List Nat → List (List Char)
  | [] => [cs.drop start]
  | k :: ks => (cs.take k).drop start :: between cs (k + 1) ks

/-- The pieces of a text between its separating dots. -/
def cut (cs : List Char) : List (List Char) := between cs 0 (separators cs)

theorem mem_separators {cs : List Char} {k : Nat} : k ∈ separators cs ↔ SeparatesAt cs k := by
  rw [separators, separatorsFrom, List.mem_filter, decide_eq_true_iff, and_iff_right_iff_imp]
  intro separates
  obtain ⟨inText, -⟩ := List.getElem?_eq_some_iff.mp separates.1
  exact List.mem_range'_1.mpr ⟨Nat.zero_le k, by omega⟩

theorem length_between (cs : List Char) (start : Nat) (ks : List Nat) :
    (between cs start ks).length = ks.length + 1 := by
  induction ks generalizing start with
  | nil => rfl
  | cons k ks ih => rw [between, List.length_cons, ih, List.length_cons]

theorem length_cut (cs : List Char) : (cut cs).length = (separators cs).length + 1 :=
  length_between cs 0 (separators cs)

/-- Whether the next dot separates is told by its character and the quotes read so far. -/
theorem separatesAt_length {done rest : List Char} {c : Char} :
    SeparatesAt (done ++ c :: rest) done.length ↔ c = '.' ∧ Even (done.count '"') := by
  simp [SeparatesAt]

theorem separatorsFrom_end (cs : List Char) : separatorsFrom cs cs.length = [] := by
  simp [separatorsFrom]

/-- The separating dots from a place on are the one at this place, if there is one, and the later
ones. -/
theorem separatorsFrom_next {done rest : List Char} {c : Char} :
    separatorsFrom (done ++ c :: rest) done.length =
      if c = '.' ∧ Even (done.count '"') then
        done.length :: separatorsFrom (done ++ c :: rest) (done.length + 1)
      else separatorsFrom (done ++ c :: rest) (done.length + 1) := by
  have places : (done ++ c :: rest).length - done.length =
      (done ++ c :: rest).length - (done.length + 1) + 1 := by
    rw [List.length_append, List.length_cons]
    omega
  rw [separatorsFrom, places, List.range'_succ, List.filter_cons]
  simp only [separatesAt_length, decide_eq_true_iff, separatorsFrom]

/-! ### Reading once through a text -/

/-- The quotes of a text leave one open. -/
def quotesOpen (cs : List Char) : Bool := !decide (Even (cs.count '"'))

/-- The reader turns its flag at every quote, and at nothing else. -/
theorem quotesOpen_concat (cs : List Char) (c : Char) :
    quotesOpen (cs ++ [c]) = if c = '"' then !quotesOpen cs else quotesOpen cs := by
  unfold quotesOpen
  split
  · rename_i quote
    subst quote
    simp only [List.count_append, List.count_singleton_self, Nat.even_add_one, decide_not]
  · rename_i other
    simp [List.count_append, other]

theorem pieces_ne_nil (inQuotes : Bool) (cs : List Char) : pieces inQuotes cs ≠ [] := by
  fun_cases pieces inQuotes cs <;> simp

theorem exists_pieces_eq_cons (inQuotes : Bool) (cs : List Char) :
    ∃ piece others, pieces inQuotes cs = piece :: others :=
  List.exists_cons_of_ne_nil (pieces_ne_nil inQuotes cs)

theorem pieces_dot (cs : List Char) : pieces false ('.' :: cs) = [] :: pieces false cs := by
  simp [pieces]

/-- A character that does not separate begins the first piece of what follows it. -/
theorem pieces_cons {inQuotes : Bool} {c : Char} {cs : List Char}
    (kept : ¬ (c = '.' ∧ inQuotes = false)) :
    pieces inQuotes (c :: cs) =
      (pieces (if c = '"' then !inQuotes else inQuotes) cs).modifyHead (c :: ·) := by
  have condition : ¬ (c = '.' && !inQuotes) = true := by simpa using kept
  obtain ⟨piece, others, cutOff⟩ :=
    exists_pieces_eq_cons (if c = '"' then !inQuotes else inQuotes) cs
  rw [pieces, if_neg condition, cutOff, List.modifyHead_cons]

/-- **After a part of a text is read**, the piece that is begun at `start` and the later ones
are what the reader makes of the rest, with the characters read since `start` in front of it.
-/
theorem between_separators (done rest : List Char) {start : Nat} (begun : start ≤ done.length) :
    between (done ++ rest) start (separatorsFrom (done ++ rest) done.length) =
      (pieces (quotesOpen done) rest).modifyHead (done.drop start ++ ·) := by
  induction rest generalizing done start with
  | nil => simp [separatorsFrom_end, between, pieces]
  | cons c rest ih =>
      -- The text read grows by the character `c`, which leaves the whole text as it is.
      have whole : done ++ [c] ++ rest = done ++ c :: rest :=
        (List.append_cons done c rest).symm
      have grown : (done ++ [c]).length = done.length + 1 := List.length_append
      rw [separatorsFrom_next]
      split
      · rename_i separates
        obtain ⟨rfl, closed⟩ := separates
        have flag : quotesOpen done = false := by simp [quotesOpen, closed]
        have next := ih (done ++ ['.']) (Nat.le_refl _)
        rw [whole, grown, quotesOpen_concat, flag] at next
        have nothing : (done ++ ['.']).drop (done.length + 1) = [] := by
          rw [← grown, List.drop_length]
        rw [nothing] at next
        rw [between, next, flag, pieces_dot, List.modifyHead_cons, List.take_left, List.append_nil]
        exact congrArg _ (congrFun List.modifyHead_id _)
      · rename_i other
        have kept : ¬ (c = '.' ∧ quotesOpen done = false) := by simpa [quotesOpen] using other
        have next := ih (done ++ [c]) (show start ≤ (done ++ [c]).length by omega)
        rw [whole, grown, quotesOpen_concat, List.drop_append_of_le_length begun] at next
        rw [next, pieces_cons kept, List.modifyHead_modifyHead]
        congr 1
        funext piece
        simp

/-- **Reading once through a text cuts it at its separating dots.** -/
theorem pieces_eq_cut (cs : List Char) : pieces false cs = cut cs := by
  calc
    pieces false cs = (pieces false cs).modifyHead id := (congrFun List.modifyHead_id _).symm
    _ = between cs 0 (separatorsFrom cs 0) := (between_separators [] cs (Nat.le_refl 0)).symm

/-! ### Pieces -/

/-- A piece is not cut further. The first one is read again with the flag that it was read with; the
later ones begin behind a separating dot, where no quote is open. -/
theorem pieces_of_pieces {inQuotes : Bool} {cs piece : List Char} {others : List (List Char)}
    (cutOff : pieces inQuotes cs = piece :: others) :
    pieces inQuotes piece = [piece] ∧ ∀ other ∈ others, pieces false other = [other] := by
  induction cs generalizing inQuotes piece others with
  | nil =>
      cases cutOff
      exact ⟨rfl, fun other member => nomatch member⟩
  | cons c cs ih =>
      by_cases separates : c = '.' ∧ inQuotes = false
      · obtain ⟨rfl, rfl⟩ := separates
        rw [pieces_dot] at cutOff
        cases cutOff
        refine ⟨rfl, ?_⟩
        intro other member
        obtain ⟨first, later, cutRest⟩ := exists_pieces_eq_cons false cs
        rw [cutRest] at member
        rcases List.mem_cons.mp member with rfl | inLater
        · exact (ih cutRest).1
        · exact (ih cutRest).2 other inLater
      · obtain ⟨first, later, cutRest⟩ :=
          exists_pieces_eq_cons (if c = '"' then !inQuotes else inQuotes) cs
        rw [pieces_cons separates, cutRest] at cutOff
        cases cutOff
        refine ⟨?_, (ih cutRest).2⟩
        rw [pieces_cons separates, (ih cutRest).1, List.modifyHead_cons]

/-- The pieces of a text have no separating dots of their own. -/
theorem not_separatesAt_of_mem_cut {cs piece : List Char} (member : piece ∈ cut cs) (k : Nat) :
    ¬ SeparatesAt piece k := by
  obtain ⟨first, later, cutOff⟩ := exists_pieces_eq_cons false cs
  have whole : pieces false piece = [piece] := by
    rw [← pieces_eq_cut, cutOff] at member
    rcases List.mem_cons.mp member with rfl | inLater
    · exact (pieces_of_pieces cutOff).1
    · exact (pieces_of_pieces cutOff).2 piece inLater
  have counted := length_cut piece
  rw [← pieces_eq_cut, whole] at counted
  have none : separators piece = [] := List.eq_nil_of_length_eq_zero (Nat.succ.inj counted).symm
  rw [← mem_separators, none]
  exact List.not_mem_nil

theorem intercalate_pieces (inQuotes : Bool) (cs : List Char) :
    ['.'].intercalate (pieces inQuotes cs) = cs := by
  induction cs generalizing inQuotes with
  | nil => rfl
  | cons c cs ih =>
      by_cases separates : c = '.' ∧ inQuotes = false
      · obtain ⟨rfl, rfl⟩ := separates
        rw [pieces_dot, List.intercalate_cons_of_ne_nil (pieces_ne_nil false cs), ih]
        rfl
      · rw [pieces_cons separates]
        have rest := ih (if c = '"' then !inQuotes else inQuotes)
        obtain ⟨first, later, cutRest⟩ :=
          exists_pieces_eq_cons (if c = '"' then !inQuotes else inQuotes) cs
        rw [cutRest] at rest ⊢
        cases later with
        | nil => simpa using rest
        | cons next later => simpa using rest

/-- The pieces joined by dots are the text. -/
theorem intercalate_cut (cs : List Char) : ['.'].intercalate (cut cs) = cs := by
  rw [← pieces_eq_cut, intercalate_pieces]

/-! ### Table names -/

/-- The texts of the parts: of the schema, if there is one, and of the name. -/
def texts (parts : QualifiedName) : List String := parts.schema.toList ++ [parts.name]

/-- A table name is refused if it has too many separating dots or an empty piece. -/
theorem split_eq_none {written : String} :
    split written = none ↔
      2 ≤ (separators written.toList).length ∨ [] ∈ cut written.toList := by
  have counted := length_cut written.toList
  rw [← pieces_eq_cut] at counted ⊢
  unfold split
  split
  · rename_i name cutOff
    rw [cutOff, List.length_singleton] at counted
    have few : ¬ 2 ≤ (separators written.toList).length := by omega
    cases name with
    | nil => simp [cutOff]
    | cons c cs => simp [cutOff, few]
  · rename_i schema name cutOff
    rw [cutOff, List.length_cons, List.length_singleton] at counted
    have few : ¬ 2 ≤ (separators written.toList).length := by omega
    cases schema with
    | nil => simp [cutOff]
    | cons c cs =>
        cases name with
        | nil => simp [cutOff]
        | cons d ds => simp [cutOff, few]
  · rename_i notOne notTwo
    refine iff_of_true rfl (.inl ?_)
    rcases cutOff : pieces false written.toList with _ | ⟨first, _ | ⟨second, _ | ⟨third, later⟩⟩⟩
    · exact absurd cutOff (pieces_ne_nil _ _)
    · exact absurd cutOff (notOne first)
    · exact absurd cutOff (notTwo first second)
    · rw [cutOff] at counted
      simp only [List.length_cons] at counted
      omega

/-- A table name is read as its pieces. -/
theorem texts_of_split {written : String} {parts : QualifiedName}
    (read : split written = some parts) :
    parts.texts.map String.toList = cut written.toList := by
  rw [← pieces_eq_cut]
  obtain ⟨schema, name⟩ := parts
  rcases split_eq_some.mp read with ⟨rfl, cutOff, -⟩ | ⟨schema, rfl, cutOff, -⟩
  · exact cutOff.symm
  · exact cutOff.symm

/-- The parts of a table name joined by a dot are the table name. -/
theorem intercalate_texts {written : String} {parts : QualifiedName}
    (read : split written = some parts) : ".".intercalate parts.texts = written := by
  rw [← String.toList_inj, String.toList_intercalate, texts_of_split read]
  exact intercalate_cut written.toList

/-- **Table names are cut at their separating dots.** A table name is refused exactly if it
has two or more separating dots or an empty piece between them. Otherwise its pieces, one or
two, are the name or the schema and the name; they have no separating dots of their own, and
joined by a dot they are the table name. So a schema and a name between quotes are read as
they stand, if they have no quotes. -/
theorem table_names_are_cut_at_separating_dots (written : String) :
    (split written = none ↔
      2 ≤ (separators written.toList).length ∨ [] ∈ cut written.toList) ∧
    (∀ parts, split written = some parts →
      parts.texts.map String.toList = cut written.toList ∧
      (∀ text ∈ parts.texts, ∀ k, ¬ SeparatesAt text.toList k) ∧
      ".".intercalate parts.texts = written) ∧
    ∀ schema name : String, '"' ∉ schema.toList → '"' ∉ name.toList →
      split (Name.quote schema ++ "." ++ Name.quote name) =
        some ⟨some (Name.quote schema), Name.quote name⟩ := by
  refine ⟨split_eq_none, ?_, fun schema name => split_quoted⟩
  intro parts read
  have pieces := texts_of_split read
  refine ⟨pieces, ?_, intercalate_texts read⟩
  intro text member
  have isPiece : text.toList ∈ cut written.toList := pieces ▸ List.mem_map_of_mem member
  exact not_separatesAt_of_mem_cut isPiece

/-- A table name with quotes in the middle of its schema and an open one before its name, and one
whose quoted parts hold a dot and nothing. -/
theorem quotes_within_pieces_hold_dots :
    split "sto\".\"ck.\"it.em" = some ⟨some "sto\".\"ck", "\"it.em"⟩ ∧
      ["sto\".\"ck", "\"it.em"].map String.toList = cut "sto\".\"ck.\"it.em".toList ∧
      '"' ∉ "My.Schema".toList ∧ '"' ∉ "".toList ∧
      split (Name.quote "My.Schema" ++ "." ++ Name.quote "") =
        some ⟨some "\"My.Schema\"", "\"\""⟩ := by
  have read : split "sto\".\"ck.\"it.em" = some ⟨some "sto\".\"ck", "\"it.em"⟩ := by decide
  obtain ⟨-, parts, quoted⟩ := table_names_are_cut_at_separating_dots "sto\".\"ck.\"it.em"
  exact ⟨read, (parts _ read).1, by decide, by decide,
    quoted "My.Schema" "" (by decide) (by decide)⟩

end QualifiedName

end NestedQuery
