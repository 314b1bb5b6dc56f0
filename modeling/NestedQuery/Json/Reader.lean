import NestedQuery.Json.Basic

/-!
# Reading JSON text

The grammar is strict: no comments, no trailing commas, nothing but blanks after the value, no raw
control characters in strings.

## Main Definitions

* `Json.parse`: the value that a text denotes
* `maxDepth`: how deep arrays and objects may nest before they become unreadable

## Design Notes

Arrays and objects beyond `maxDepth` are still checked for their form, and so are strings with a
broken surrogate pair; their values are `unreadable`. An object with an unreadable key is unreadable
as a whole. The readers recurse on a budget. Every step either uses up a character or opens an array
or object whose first character was just used up, so twice the length of the text is enough.
-/

namespace NestedQuery.Json

/-- How many arrays and objects may lie around one another. -/
def maxDepth : Nat := 127

/-- The four characters that may stand between the parts of a text. -/
def isBlank (c : Char) : Bool :=
  c == ' ' || c == '\n' || c == '\t' || c == '\r'

/-- A text from its first character that is not a blank. -/
def skipBlanks : List Char → List Char
  | [] => []
  | c :: cs => if isBlank c then skipBlanks cs else c :: cs

/-! ### Strings -/

/-- The value of a hexadecimal digit. -/
def hexValue (c : Char) : Option Nat :=
  if c.isDigit then some (c.toNat - 0x30)
  else if 'a' ≤ c && c ≤ 'f' then some (c.toNat - 0x61 + 10)
  else if 'A' ≤ c && c ≤ 'F' then some (c.toNat - 0x41 + 10)
  else none

/-- The value of four hexadecimal digits. -/
def hexQuad (a b c d : Char) : Option Nat := do
  let a ← hexValue a
  let b ← hexValue b
  let c ← hexValue c
  let d ← hexValue d
  return ((a * 16 + b) * 16 + c) * 16 + d

/-- The first half of a surrogate pair. -/
def isHighSurrogate (n : Nat) : Bool := 0xD800 ≤ n && n ≤ 0xDBFF

/-- The second half of a surrogate pair. -/
def isLowSurrogate (n : Nat) : Bool := 0xDC00 ≤ n && n ≤ 0xDFFF

/-- The character of a surrogate pair. -/
def surrogatePair (high low : Nat) : Char :=
  Char.ofNat (0x10000 + (high - 0xD800) * 0x400 + (low - 0xDC00))

/-- The character after a backslash, other than `u`. -/
def escapedChar : Char → Option Char
  | '"' => some '"'
  | '\\' => some '\\'
  | '/' => some '/'
  | 'b' => some (Char.ofNat 0x08)
  | 'f' => some (Char.ofNat 0x0C)
  | 'n' => some '\n'
  | 'r' => some '\r'
  | 't' => some '\t'
  | _ => none

/-- Read a string from behind its opening quote. `acc` holds the characters read, in reverse
order, and is `none` once a surrogate pair is broken. -/
def readStringBody (acc : Option (List Char)) :
    List Char → Option (Option String × List Char)
  | [] => none
  | '"' :: rest => some (acc.map fun cs => String.ofList cs.reverse, rest)
  | '\\' :: 'u' :: a :: b :: c :: d :: '\\' :: 'u' :: a' :: b' :: c' :: d' :: rest =>
    match hexQuad a b c d with
    | none => none
    | some n =>
      if isHighSurrogate n then
        match hexQuad a' b' c' d' with
        | none => none
        | some n' =>
          if isLowSurrogate n' then
            readStringBody (acc.map (surrogatePair n n' :: ·)) rest
          else readStringBody none rest
      else
        readStringBody (if isLowSurrogate n then none else acc.map (Char.ofNat n :: ·))
          ('\\' :: 'u' :: a' :: b' :: c' :: d' :: rest)
  | '\\' :: 'u' :: a :: b :: c :: d :: rest =>
    match hexQuad a b c d with
    | none => none
    | some n =>
      readStringBody
        (if isHighSurrogate n || isLowSurrogate n then none else acc.map (Char.ofNat n :: ·)) rest
  | '\\' :: e :: rest =>
    match escapedChar e with
    | none => none
    | some c => readStringBody (acc.map (c :: ·)) rest
  | c :: rest =>
    if c.toNat < 0x20 || c == '\\' then none
    else readStringBody (acc.map (c :: ·)) rest

/-! ### Numbers -/

/-- The digits at the beginning of a text, and the rest. -/
def digits (cs : List Char) : List Char × List Char :=
  (cs.takeWhile Char.isDigit, cs.dropWhile Char.isDigit)

/-- The number written by decimal digits. -/
def digitsValue (cs : List Char) : Nat :=
  cs.foldl (fun n c => n * 10 + (c.toNat - 0x30)) 0

/-- The parts of a number literal. -/
structure NumberLiteral where
  negative : Bool
  whole : List Char
  /-- The digits behind the decimal point, if there is one. -/
  fraction : Option (List Char)
  /-- The exponent, if there is one. -/
  exponent : Option Int

/-- Read the digits behind a decimal point, at least one. -/
def readFraction : List Char → Option (Option (List Char) × List Char)
  | '.' :: cs =>
    let (ds, rest) := digits cs
    if ds.isEmpty then none else some (some ds, rest)
  | cs => some (none, cs)

/-- Read the digits of an exponent, at least one. -/
def readExponentDigits (negative : Bool) (cs : List Char) : Option (Option Int × List Char) :=
  let (ds, rest) := digits cs
  if ds.isEmpty then none
  else
    let n : Int := digitsValue ds
    some (some (if negative then -n else n), rest)

/-- Read an exponent, if one begins here. -/
def readExponent : List Char → Option (Option Int × List Char)
  | [] => some (none, [])
  | e :: cs =>
    if e == 'e' || e == 'E' then
      match cs with
      | '+' :: cs => readExponentDigits false cs
      | '-' :: cs => readExponentDigits true cs
      | cs => readExponentDigits false cs
    else some (none, e :: cs)

/-- Read a number without its sign. A leading zero stands alone. -/
def readMagnitude (negative : Bool) (cs : List Char) : Option (NumberLiteral × List Char) := do
  let (whole, rest) := digits cs
  if whole.isEmpty || (whole.head? == some '0' && whole.length != 1) then none
  let (fraction, rest) ← readFraction rest
  let (exponent, rest) ← readExponent rest
  return (⟨negative, whole, fraction, exponent⟩, rest)

/-- The least magnitude that no double-precision number comes close to. -/
def magnitudeBound : Nat := Nat.pow 2 1024 - Nat.pow 2 970

/-- Whether a number lies beyond the range of double precision. With the decimal point moved behind
the last digit, the number is `mantissa * 10 ^ scale`; the first two tests avoid large
powers. -/
def NumberLiteral.overflows (number : NumberLiteral) : Bool :=
  let fraction := number.fraction.getD []
  let mantissa := digitsValue (number.whole ++ fraction)
  let scale := number.exponent.getD 0 - fraction.length
  if mantissa == 0 then false
  else if 310 < scale then true
  else if 0 ≤ scale then magnitudeBound ≤ mantissa * Nat.pow 10 scale.toNat
  else if (number.whole.length + fraction.length : Int) < -scale then false
  else magnitudeBound * Nat.pow 10 (-scale).toNat ≤ mantissa

/-- The value of a number literal. Minus zero is not a plain integer. -/
def NumberLiteral.value (number : NumberLiteral) (literal : List Char) : Json :=
  if number.overflows then .unreadable
  else if number.fraction.isNone && number.exponent.isNone then
    let n := digitsValue number.whole
    if !number.negative then .int n
    else if n == 0 then .real "-0"
    else .int (-n)
  else .real (String.ofList literal)

/-- Read a number. -/
def readNumber (cs : List Char) : Option (Json × List Char) := do
  let (negative, magnitude) :=
    match cs with
    | '-' :: rest => (true, rest)
    | cs => (false, cs)
  let (number, rest) ← readMagnitude negative magnitude
  return (number.value (cs.take (cs.length - rest.length)), rest)

/-! ### Values -/

/-- The value of an array or object at the given depth: unreadable when nothing may nest here. -/
def atDepth (remaining : Nat) (value : Json) : Json :=
  if remaining = 0 then .unreadable else value

/-- The object of the members read, unreadable if one of the keys is. -/
def ofMembers (members : List (Option String × Json)) : Json :=
  match members.mapM (fun member => member.1.map fun key => (key, member.2)) with
  | some members => .obj members
  | none => .unreadable

mutual

/-- Read a value from its first character on; `remaining` is how many arrays and objects may still
be opened around one another. -/
def readValue (budget remaining : Nat) (cs : List Char) : Option (Json × List Char) :=
  match budget with
  | 0 => none
  | budget + 1 =>
    match cs with
    | 'n' :: 'u' :: 'l' :: 'l' :: rest => some (.null, rest)
    | 't' :: 'r' :: 'u' :: 'e' :: rest => some (.bool true, rest)
    | 'f' :: 'a' :: 'l' :: 's' :: 'e' :: rest => some (.bool false, rest)
    | '"' :: rest => do
      let (s, rest) ← readStringBody (some []) rest
      return ((s.map Json.str).getD .unreadable, rest)
    | '[' :: rest =>
      match skipBlanks rest with
      | ']' :: rest => some (atDepth remaining (.arr []), rest)
      | rest => do
        let (items, rest) ← readItems budget (remaining - 1) [] rest
        return (atDepth remaining (.arr items), rest)
    | '\x7b' :: rest =>
      match skipBlanks rest with
      | '\x7d' :: rest => some (atDepth remaining (.obj []), rest)
      | rest => do
        let (members, rest) ← readMembers budget (remaining - 1) [] rest
        return (atDepth remaining (ofMembers members), rest)
    | cs => readNumber cs
termination_by structural budget

/-- Read the items of an array, at least one, and the closing bracket. `acc` holds the items read,
in reverse order. -/
def readItems (budget remaining : Nat) (acc : List Json) (cs : List Char) :
    Option (List Json × List Char) :=
  match budget with
  | 0 => none
  | budget + 1 => do
    let (item, rest) ← readValue budget remaining (skipBlanks cs)
    match skipBlanks rest with
    | ',' :: rest => readItems budget remaining (item :: acc) rest
    | ']' :: rest => some ((item :: acc).reverse, rest)
    | _ => none
termination_by structural budget

/-- Read the members of an object, at least one, and the closing brace. `acc` holds the members
read, in reverse order. -/
def readMembers (budget remaining : Nat) (acc : List (Option String × Json)) (cs : List Char) :
    Option (List (Option String × Json) × List Char) :=
  match budget with
  | 0 => none
  | budget + 1 =>
    match skipBlanks cs with
    | '"' :: rest => do
      let (key, rest) ← readStringBody (some []) rest
      match skipBlanks rest with
      | ':' :: rest =>
        let (value, rest) ← readValue budget remaining (skipBlanks rest)
        match skipBlanks rest with
        | ',' :: rest => readMembers budget remaining ((key, value) :: acc) rest
        | '\x7d' :: rest => some (((key, value) :: acc).reverse, rest)
        | _ => none
      | _ => none
    | _ => none
termination_by structural budget

end

/-- The value that a text denotes, if it is well formed. -/
def parse (text : String) : Option Json :=
  let cs := text.toList
  match readValue (2 * cs.length + 2) maxDepth (skipBlanks cs) with
  | some (value, rest) => if (skipBlanks rest).isEmpty then some value else none
  | none => none

end NestedQuery.Json
