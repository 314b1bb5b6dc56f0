import NestedQuery.Sql.RowObject

/-!
# How databases read names and literals

A database finds the end of a name or a literal by itself: at the delimiter that opened it, unless
that is written twice, and in a literal of MySQL not after a backslash. Here is what it then takes
the text for, and which texts it reads back from a literal.

## Main Definitions

* `readDelimited`: the rest of a text between delimiters, and what follows it
* `Dialect.readLiteral`, `Dialect.readIdentifier`: the literal or identifier at the start of a text
* `doubled`: a text as it stands between delimiters
* `KeepsBackslashes`: no backslash takes part in an escape sequence that changes the text

## Main Results

* `readDelimited_eq_some_iff`: without escape sequences, only a doubled text is read
* `readDelimited_doubled_iff`: with them, which doubled texts are read back
* `Dialect.readLiteral_sqlLiteral_iff`: which texts are read back from a literal
-/

namespace NestedQuery

/-! ### Reading -/

/-- What an escape sequence of MySQL stands for, by the character after the backslash. -/
def unescaped : Char → List Char
  | '0' => [Char.ofNat 0]
  | 'b' => [Char.ofNat 8]
  | 'n' => ['\n']
  | 'r' => ['\r']
  | 't' => ['\t']
  | 'Z' => [Char.ofNat 26]
  | '%' => ['\\', '%']
  | '_' => ['\\', '_']
  | c => [c]

/-- A text that was read, with characters before it. -/
def prepend (start : List Char) :
    Option (List Char × List Char) → Option (List Char × List Char) :=
  Option.map fun (value, rest) => (start ++ value, rest)

/-- What the text after an opening delimiter stands for, up to the closing one, and what follows
that. Within the text the delimiter is written twice. -/
def readDelimited (delimiter : Char) (escapes : Bool) :
    List Char → Option (List Char × List Char)
  | [] => none
  | [c] => if c = delimiter then some ([], []) else none
  | c :: next :: rest =>
    if c = delimiter then
      if next = delimiter then prepend [c] (readDelimited delimiter escapes rest)
      else some ([], next :: rest)
    else if escapes && c == '\\' then
      prepend (unescaped next) (readDelimited delimiter escapes rest)
    else prepend [c] (readDelimited delimiter escapes (next :: rest))

namespace Dialect

/-- The character before and after a delimited identifier. -/
def delimiter : Dialect → Char
  | postgres => '"'
  | oracle => '"'
  | mysql => backtick

/-- The stored name that an identifier without delimiters stands for. -/
def foldPlain : Dialect → String → String
  | postgres, name => Text.toLower name
  | oracle, name => Text.toUpper name
  | mysql, name => name

/-- The characters with which an identifier without delimiters begins. -/
def opensPlain (dialect : Dialect) (c : Char) : Bool :=
  c.isAlpha || (c == '_' && dialect != oracle) || 0x80 ≤ c.toNat

/-- The other characters of an identifier without delimiters. -/
def continuesPlain (dialect : Dialect) (c : Char) : Bool :=
  c.isAlphanum || c == '_' || c == '$' || (c == '#' && dialect == oracle) || 0x80 ≤ c.toNat

/-- The name that the identifier at the start of a text stands for, and what follows the
identifier. It is either between delimiters, or a word other than a keyword. -/
def readIdentifier (dialect : Dialect) (delimiter : Char) :
    List Char → Option (List Char × List Char)
  | [] => none
  | c :: cs =>
    if c = delimiter then (readDelimited delimiter false cs).filter fun (name, _) => !name.isEmpty
    else
      let word := String.ofList (c :: cs.takeWhile dialect.continuesPlain)
      if dialect.opensPlain c && !isKeyword word then
        some ((dialect.foldPlain word).toList, cs.dropWhile dialect.continuesPlain)
      else none

/-- Whether a backslash in a literal begins an escape sequence. -/
def escapes : Dialect → Bool
  | postgres => false
  | oracle => false
  | mysql => true

/-- The value of the string literal at the start of a text, and what follows the literal. -/
def readLiteral (dialect : Dialect) : List Char → Option (List Char × List Char)
  | [] => none
  | c :: cs => if c = '\'' then readDelimited '\'' dialect.escapes cs else none

end Dialect

/-! ### Delimited texts -/

/-- A text as it stands between delimiters. -/
def doubled (delimiter : Char) (cs : List Char) : List Char :=
  cs.flatMap fun c => if c = delimiter then [c, c] else [c]

@[simp] theorem doubled_nil (delimiter : Char) : doubled delimiter [] = [] := rfl

@[simp] theorem doubled_cons_self (delimiter : Char) (cs : List Char) :
    doubled delimiter (delimiter :: cs) = delimiter :: delimiter :: doubled delimiter cs := by
  simp [doubled]

theorem doubled_cons_of_ne {delimiter c : Char} (other : c ≠ delimiter) (cs : List Char) :
    doubled delimiter (c :: cs) = c :: doubled delimiter cs := by
  simp [doubled, other]

theorem length_doubled (delimiter : Char) (cs : List Char) :
    (doubled delimiter cs).length = cs.length + cs.count delimiter := by
  induction cs with
  | nil => rfl
  | cons c cs ih =>
      by_cases same : c = delimiter
      · subst same
        rw [doubled_cons_self, List.length_cons, List.length_cons, List.count_cons_self, ih,
          List.length_cons]
        omega
      · rw [doubled_cons_of_ne same, List.length_cons, List.length_cons,
          List.count_cons_of_ne same, ih]
        omega

/-- Doubling leaves just the texts without the delimiter as they are. -/
theorem doubled_eq_self_iff {delimiter : Char} {cs : List Char} :
    doubled delimiter cs = cs ↔ delimiter ∉ cs := by
  constructor
  · intro same
    have lengths := length_doubled delimiter cs
    rw [same] at lengths
    exact List.count_eq_zero.mp (by omega)
  · intro absent
    induction cs with
    | nil => rfl
    | cons c cs ih =>
        rw [List.mem_cons, not_or] at absent
        rw [doubled_cons_of_ne (Ne.symm absent.1), ih absent.2]

theorem count_doubled_of_ne {delimiter counted : Char} (other : counted ≠ delimiter)
    (cs : List Char) : (doubled delimiter cs).count counted = cs.count counted := by
  induction cs with
  | nil => rfl
  | cons c cs ih =>
      by_cases same : c = delimiter
      · subst same
        rw [doubled_cons_self, List.count_cons_of_ne other.symm, List.count_cons_of_ne other.symm,
          List.count_cons_of_ne other.symm, ih]
      · rw [doubled_cons_of_ne same, List.count_cons, List.count_cons, ih]

theorem mem_doubled {delimiter c : Char} {cs : List Char} : c ∈ doubled delimiter cs ↔ c ∈ cs := by
  induction cs with
  | nil => exact Iff.rfl
  | cons first cs ih =>
      by_cases same : first = delimiter
      · subst same
        simp [ih]
      · simp [doubled_cons_of_ne same, ih]

theorem prepend_eq_some {start value rest : List Char}
    {result : Option (List Char × List Char)} :
    prepend start result = some (value, rest) ↔
      ∃ tail, result = some (tail, rest) ∧ start ++ tail = value := by
  simp [prepend]

/-! ### Steps of reading -/

section Steps

variable {delimiter : Char} {escapes : Bool}

theorem readDelimited_close {rest : List Char} (ends : rest.head? ≠ some delimiter) :
    readDelimited delimiter escapes (delimiter :: rest) = some ([], rest) := by
  cases rest with
  | nil => simp [readDelimited]
  | cons next rest =>
      have other : next ≠ delimiter := fun same => ends (by rw [same]; rfl)
      simp [readDelimited, other]

@[simp] theorem readDelimited_twice (cs : List Char) :
    readDelimited delimiter escapes (delimiter :: delimiter :: cs) =
      prepend [delimiter] (readDelimited delimiter escapes cs) := by
  simp [readDelimited]

theorem readDelimited_escape (other : '\\' ≠ delimiter) (c : Char) (cs : List Char) :
    readDelimited delimiter true ('\\' :: c :: cs) =
      prepend (unescaped c) (readDelimited delimiter true cs) := by
  simp [readDelimited, other]

theorem readDelimited_cons {c : Char} (other : c ≠ delimiter)
    (plain : escapes = true → c ≠ '\\') (cs : List Char) :
    readDelimited delimiter escapes (c :: cs) =
      prepend [c] (readDelimited delimiter escapes cs) := by
  have noEscape : (escapes && c == '\\') = false := by
    rw [Bool.and_eq_false_imp]
    exact fun escaping => beq_eq_false_iff_ne.mpr (plain escaping)
  cases cs with
  | nil => simp [readDelimited, other, prepend]
  | cons next cs => simp [readDelimited, other, noEscape]

end Steps

theorem count_unescaped (c : Char) : (unescaped c).count ' ' = [c].count ' ' := by
  unfold unescaped
  split <;> rfl

section Delimited

variable {delimiter : Char} {escapes : Bool} {cs value rest : List Char}

/-- **What is read.** The text up to the closing delimiter has the spaces of the value, and is the
doubled value unless there are escape sequences. -/
theorem readDelimited_sound (noSpace : delimiter ≠ ' ')
    (read : readDelimited delimiter escapes cs = some (value, rest)) :
    ∃ body, cs = body ++ delimiter :: rest ∧ body.count ' ' = value.count ' ' ∧
      (escapes = false → body = doubled delimiter value) := by
  fun_induction readDelimited delimiter escapes cs generalizing value with
  | case1 => cases read
  | case2 =>
      cases read
      exact ⟨[], rfl, rfl, fun _ => rfl⟩
  | case3 => cases read
  | case4 tail ih =>
      obtain ⟨inner, following, rfl⟩ := prepend_eq_some.mp read
      obtain ⟨body, rfl, spaces, twice⟩ := ih following
      refine ⟨delimiter :: delimiter :: body, rfl, ?_, fun plain => ?_⟩
      · rw [List.singleton_append, List.count_cons_of_ne noSpace, List.count_cons_of_ne noSpace,
          List.count_cons_of_ne noSpace, spaces]
      · rw [List.singleton_append, doubled_cons_self, twice plain]
  | case5 next tail differs =>
      cases read
      exact ⟨[], rfl, rfl, fun _ => rfl⟩
  | case6 c next tail differs escape ih =>
      obtain ⟨inner, following, rfl⟩ := prepend_eq_some.mp read
      obtain ⟨body, rfl, spaces, -⟩ := ih following
      rw [Bool.and_eq_true, beq_iff_eq] at escape
      refine ⟨c :: next :: body, rfl, ?_, fun plain => ?_⟩
      · rw [List.count_append, count_unescaped, ← spaces, escape.2,
          List.count_cons_of_ne (by decide), ← List.singleton_append, List.count_append]
      · rw [plain] at escape
        cases escape.1
  | case7 c next tail differs plain ih =>
      obtain ⟨inner, following, rfl⟩ := prepend_eq_some.mp read
      obtain ⟨body, split, spaces, twice⟩ := ih following
      refine ⟨c :: body, by rw [split]; rfl, ?_, fun plain => ?_⟩
      · rw [List.singleton_append, List.count_cons, List.count_cons, spaces]
      · rw [List.singleton_append, doubled_cons_of_ne differs, twice plain]

/-- A doubled text is read back, if there are no escape sequences. -/
theorem readDelimited_doubled (ends : rest.head? ≠ some delimiter) :
    readDelimited delimiter false (doubled delimiter cs ++ delimiter :: rest) =
      some (cs, rest) := by
  induction cs with
  | nil => exact readDelimited_close ends
  | cons c cs ih =>
      by_cases same : c = delimiter
      · subst same
        rw [doubled_cons_self, List.cons_append, List.cons_append, readDelimited_twice, ih]
        rfl
      · have plain : false = true → c ≠ '\\' := nofun
        rw [doubled_cons_of_ne same, List.cons_append, readDelimited_cons same plain, ih]
        rfl

/-- **Without escape sequences, exactly the doubled texts are read.** -/
theorem readDelimited_eq_some_iff (noSpace : delimiter ≠ ' ')
    (ends : rest.head? ≠ some delimiter) :
    readDelimited delimiter false cs = some (value, rest) ↔
      cs = doubled delimiter value ++ delimiter :: rest := by
  constructor
  · intro read
    obtain ⟨body, split, -, twice⟩ := readDelimited_sound noSpace read
    rw [split, twice rfl]
  · rintro rfl
    exact readDelimited_doubled ends

end Delimited

/-! ### Escape sequences -/

/-- No backslash takes part in an escape sequence that changes the text: all of them stand before
a percent sign or an underscore. -/
def KeepsBackslashes (cs : List Char) : Prop :=
  ∀ before after, cs = before ++ '\\' :: after →
    after.head? = some '%' ∨ after.head? = some '_'

theorem keepsBackslashes_nil : KeepsBackslashes [] := by
  intro before after split
  simp at split

theorem keepsBackslashes_cons {c : Char} {cs : List Char} :
    KeepsBackslashes (c :: cs) ↔
      (c = '\\' → cs.head? = some '%' ∨ cs.head? = some '_') ∧ KeepsBackslashes cs := by
  constructor
  · intro keeps
    refine ⟨fun backslash => keeps [] cs (by rw [backslash]; rfl), fun before after split => ?_⟩
    exact keeps (c :: before) after (by rw [split]; rfl)
  · rintro ⟨first, others⟩ before after split
    cases before with
    | nil =>
        rw [List.nil_append, List.cons.injEq] at split
        obtain ⟨backslash, rfl⟩ := split
        exact first backslash
    | cons head before =>
        rw [List.cons_append, List.cons.injEq] at split
        exact others before after split.2

/-- An escape sequence that stands for itself is one of those two. -/
theorem length_unescaped (c : Char) :
    (unescaped c).length = if c = '%' ∨ c = '_' then 2 else 1 := by
  unfold unescaped
  split <;> simp_all

theorem readDelimited_shortens {cs value rest : List Char}
    (read : readDelimited '\'' true cs = some (value, rest)) : rest.length < cs.length := by
  obtain ⟨body, rfl, -⟩ := readDelimited_sound (by decide) read
  rw [List.length_append, List.length_cons]
  omega

/-- A literal that is opened a character late does not end where it should. -/
theorem readDelimited_late_ne {cs value rest : List Char} :
    readDelimited '\'' true ('\'' :: (doubled '\'' cs ++ '\'' :: rest)) ≠ some (value, rest) := by
  induction cs generalizing value with
  | nil =>
      intro read
      rw [doubled_nil, List.nil_append, readDelimited_twice, prepend_eq_some] at read
      obtain ⟨inner, following, -⟩ := read
      exact absurd (readDelimited_shortens following) (Nat.lt_irrefl _)
  | cons c cs ih =>
      intro read
      by_cases same : c = '\''
      · subst same
        rw [doubled_cons_self, List.cons_append, List.cons_append, readDelimited_twice,
          prepend_eq_some] at read
        obtain ⟨inner, following, -⟩ := read
        exact ih following
      · have ends : (doubled '\'' (c :: cs) ++ '\'' :: rest).head? ≠ some '\'' := by
          simp [doubled_cons_of_ne same, same]
        rw [readDelimited_close ends, Option.some.injEq, Prod.mk.injEq] at read
        have lengths := congrArg List.length read.2
        simp only [List.length_cons, List.length_append] at lengths
        omega

/-- The first step of reading a doubled text that ends where it should: the first character is read
by itself, or it is a backslash and an escape sequence is read. -/
theorem readDelimited_doubled_step {c : Char} {cs value rest : List Char}
    (read : readDelimited '\'' true (doubled '\'' (c :: cs) ++ '\'' :: rest) =
      some (value, rest)) :
    (c ≠ '\\' ∧ ∃ inner, c :: inner = value ∧
        readDelimited '\'' true (doubled '\'' cs ++ '\'' :: rest) = some (inner, rest)) ∨
      c = '\\' ∧ ∃ next others inner, cs = next :: others ∧ unescaped next ++ inner = value ∧
        readDelimited '\'' true (doubled '\'' others ++ '\'' :: rest) = some (inner, rest) := by
  by_cases quote : c = '\''
  · subst quote
    rw [doubled_cons_self, List.cons_append, List.cons_append, readDelimited_twice,
      prepend_eq_some] at read
    obtain ⟨inner, following, first⟩ := read
    exact .inl ⟨by decide, inner, first, following⟩
  rw [doubled_cons_of_ne quote, List.cons_append] at read
  by_cases backslash : c = '\\'
  · subst backslash
    cases cs with
    | nil =>
        -- The closing quote would be taken for an escaped one.
        rw [doubled_nil, List.nil_append, readDelimited_escape quote, prepend_eq_some] at read
        obtain ⟨inner, following, -⟩ := read
        exact absurd (readDelimited_shortens following) (Nat.lt_irrefl _)
    | cons next others =>
        by_cases quoted : next = '\''
        · -- Only the first of two quotes would be escaped, and the second one would close.
          subst quoted
          rw [doubled_cons_self, List.cons_append, readDelimited_escape quote,
            prepend_eq_some] at read
          obtain ⟨inner, following, -⟩ := read
          exact absurd following readDelimited_late_ne
        · rw [doubled_cons_of_ne quoted, List.cons_append, readDelimited_escape quote,
            prepend_eq_some] at read
          obtain ⟨inner, following, first⟩ := read
          exact .inr ⟨rfl, next, others, inner, rfl, first, following⟩
  · rw [readDelimited_cons quote fun _ => backslash, prepend_eq_some] at read
    obtain ⟨inner, following, first⟩ := read
    exact .inl ⟨backslash, inner, first, following⟩

/-- **What escape sequences do to a doubled text.** If it ends where it should, the value is no
longer than the text, and as long only if no escape sequence changes it. -/
theorem length_of_readDelimited_doubled (cs : List Char) {value rest : List Char}
    (ends : rest.head? ≠ some '\'')
    (read : readDelimited '\'' true (doubled '\'' cs ++ '\'' :: rest) = some (value, rest)) :
    value.length ≤ cs.length ∧ (value.length = cs.length → KeepsBackslashes cs) := by
  cases cs with
  | nil =>
      rw [doubled_nil, List.nil_append, readDelimited_close ends] at read
      cases read
      exact ⟨Nat.le_refl _, fun _ => keepsBackslashes_nil⟩
  | cons c cs =>
      rcases readDelimited_doubled_step read with
        ⟨plain, inner, rfl, following⟩ | ⟨rfl, next, others, inner, rfl, rfl, following⟩
      · obtain ⟨atMost, keeps⟩ := length_of_readDelimited_doubled cs ends following
        rw [List.length_cons, List.length_cons, keepsBackslashes_cons]
        exact ⟨by omega, fun same => ⟨fun backslash => absurd backslash plain, keeps (by omega)⟩⟩
      · -- An escape sequence of two characters stands for as many only if it stands for itself.
        obtain ⟨atMost, keeps⟩ := length_of_readDelimited_doubled others ends following
        rw [List.length_append, List.length_cons, List.length_cons, length_unescaped]
        split
        · rename_i stands
          have other : next ≠ '\\' := by rintro rfl; simp at stands
          refine ⟨by omega, fun same => ?_⟩
          rw [keepsBackslashes_cons, keepsBackslashes_cons]
          exact ⟨fun _ => by simpa using stands, fun backslash => absurd backslash other,
            keeps (by omega)⟩
        · exact ⟨by omega, fun same => absurd same (by omega)⟩
termination_by cs.length

/-- A doubled text whose backslashes are kept is read back. -/
theorem readDelimited_of_keepsBackslashes {cs rest : List Char} (ends : rest.head? ≠ some '\'')
    (keeps : KeepsBackslashes cs) :
    readDelimited '\'' true (doubled '\'' cs ++ '\'' :: rest) = some (cs, rest) := by
  cases cs with
  | nil => exact readDelimited_close ends
  | cons c cs =>
      obtain ⟨first, others⟩ := keepsBackslashes_cons.mp keeps
      by_cases quote : c = '\''
      · subst quote
        rw [doubled_cons_self, List.cons_append, List.cons_append, readDelimited_twice,
          readDelimited_of_keepsBackslashes ends others]
        rfl
      rw [doubled_cons_of_ne quote, List.cons_append]
      by_cases backslash : c = '\\'
      · subst backslash
        cases cs with
        | nil => simp at first
        | cons next cs =>
            have stands : next = '%' ∨ next = '_' := by simpa using first rfl
            have quoted : next ≠ '\'' := by rcases stands with rfl | rfl <;> decide
            have same : unescaped next = ['\\', next] := by rcases stands with rfl | rfl <;> rfl
            rw [doubled_cons_of_ne quoted, List.cons_append, readDelimited_escape quote, same,
              readDelimited_of_keepsBackslashes ends (keepsBackslashes_cons.mp others).2]
            rfl
      · rw [readDelimited_cons quote fun _ => backslash,
          readDelimited_of_keepsBackslashes ends others]
        rfl
termination_by cs.length

/-- **With escape sequences, which doubled texts are read back.** -/
theorem readDelimited_doubled_iff {cs rest : List Char} (ends : rest.head? ≠ some '\'') :
    readDelimited '\'' true (doubled '\'' cs ++ '\'' :: rest) = some (cs, rest) ↔
      KeepsBackslashes cs :=
  ⟨fun read => (length_of_readDelimited_doubled cs ends read).2 rfl,
    readDelimited_of_keepsBackslashes ends⟩

/-! ### Literals -/

theorem Text.replaceFrom_single (c : Char) (cs : List Char) :
    Text.replaceFrom [c] [c, c] 0 cs = doubled c cs := by
  induction cs with
  | nil => rfl
  | cons first cs ih =>
      by_cases same : first = c
      · subst same
        rw [doubled_cons_self, ← ih]
        simp [Text.replaceFrom]
      · rw [doubled_cons_of_ne same, ← ih]
        simp [Text.replaceFrom, Ne.symm same]

theorem toList_sqlLiteral (text : String) :
    (sqlLiteral text).toList = '\'' :: (doubled '\'' text.toList ++ ['\'']) := by
  simp [sqlLiteral, Text.replaceAll, Text.replaceFrom_single]

namespace Dialect

variable {dialect : Dialect} {name : String} {after : List Char}

/-- A literal has the spaces of its value. -/
theorem count_of_readLiteral {text value : List Char}
    (read : dialect.readLiteral (text ++ after) = some (value, after)) :
    text.count ' ' = value.count ' ' := by
  cases whole : text ++ after with
  | nil =>
      rw [whole] at read
      cases read
  | cons c cs =>
      rw [whole, readLiteral] at read
      split at read
      · rename_i quote
        obtain ⟨body, rfl, spaces, -⟩ := readDelimited_sound (by decide) read
        have counts := congrArg (List.count ' ') whole
        rw [quote, List.count_append, List.count_cons_of_ne (by decide), List.count_append,
          List.count_cons_of_ne (by decide)] at counts
        omega
      · cases read

/-- **Which texts are read back from a literal.** -/
theorem readLiteral_sqlLiteral_iff (ends : after.head? ≠ some '\'') :
    dialect.readLiteral ((sqlLiteral name).toList ++ after) = some (name.toList, after) ↔
      (dialect = mysql → KeepsBackslashes name.toList) := by
  rw [toList_sqlLiteral, List.cons_append, readLiteral, if_pos rfl, List.append_assoc,
    List.singleton_append]
  cases dialect with
  | postgres => exact ⟨fun _ => nofun, fun _ => readDelimited_doubled ends⟩
  | oracle => exact ⟨fun _ => nofun, fun _ => readDelimited_doubled ends⟩
  | mysql =>
      rw [escapes, readDelimited_doubled_iff ends]
      exact ⟨fun keeps _ => keeps, fun keeps => keeps rfl⟩

end Dialect

end NestedQuery
