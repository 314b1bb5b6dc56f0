import NestedQuery.Json.Basic

/-!
# Writing JSON text

## Main Definitions

* `Json.render`: the compact text of a value
-/

namespace NestedQuery.Json

/-- The last `k` hexadecimal digits of a number. -/
def hexDigits : Nat → Nat → List Char
  | 0, _ => []
  | k + 1, n => hexDigits k (n / 16) ++ [Nat.digitChar (n % 16)]

/-- A character as it stands in a string. -/
def escapeChar (c : Char) : List Char :=
  if c = '"' then ['\\', '"']
  else if c = '\\' then ['\\', '\\']
  else if c.toNat < 0x20 then '\\' :: 'u' :: hexDigits 4 c.toNat
  else [c]

/-- The text of a string. -/
def renderString (s : String) : String :=
  "\"" ++ String.ofList (s.toList.flatMap escapeChar) ++ "\""

mutual

/-- The compact text of a value; a part that could not be read is written as null. -/
def render : Json → String
  | .null => "null"
  | .bool true => "true"
  | .bool false => "false"
  | .int i => toString i
  | .real literal => literal
  | .str s => renderString s
  | .arr [] => "[]"
  | .arr (item :: items) => "[" ++ item.render ++ renderItems items ++ "]"
  | .obj [] => "\x7b\x7d"
  | .obj ((key, value) :: members) =>
    "\x7b" ++ renderString key ++ ":" ++ value.render ++ renderMembers members ++ "\x7d"
  | .unreadable => "null"
termination_by structural j => j

/-- The items of an array behind the first one. -/
def renderItems : List Json → String
  | [] => ""
  | item :: items => "," ++ item.render ++ renderItems items
termination_by structural items => items

/-- The members of an object behind the first one. -/
def renderMembers : List (String × Json) → String
  | [] => ""
  | (key, value) :: members =>
    "," ++ renderString key ++ ":" ++ value.render ++ renderMembers members
termination_by structural members => members

end

end NestedQuery.Json
