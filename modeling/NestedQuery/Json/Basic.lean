/-!
# JSON values

Specifications, schema snapshots and options are JSON documents.

## Main Definitions

* `Json`: a JSON value, with the order and the repetitions of object keys
* `Json.readable`: whether every part of a value can be looked at

## Design Notes

An object is a list of members, because a record with a repeated key is refused while a map takes
its last value. A number is an integer or a literal of another form, which no document needs
as a value.

Text can be well formed and still say nothing that can be represented: a string with half of a
surrogate pair, a number beyond every floating point number, an array or object nested too
deep. Such a part is `unreadable`. It does no harm where a reader skips it, under a key that the
document does not define, and it spoils everything else.
-/

namespace NestedQuery

/-- A JSON value. -/
inductive Json where
  | null
  | bool (b : Bool)
  | int (i : Int)
  /-- A number that is not written as a plain integer. -/
  | real (literal : String)
  | str (s : String)
  | arr (items : List Json)
  | obj (members : List (String × Json))
  /-- A part of a document that cannot be represented. -/
  | unreadable
deriving Repr, Inhabited

namespace Json

mutual

/-- Whether a value has no unreadable part. -/
def readable : Json → Bool
  | .unreadable => false
  | .arr items => itemsReadable items
  | .obj members => membersReadable members
  | .null | .bool _ | .int _ | .real _ | .str _ => true
termination_by structural j => j

/-- Whether no item of an array has an unreadable part. -/
def itemsReadable : List Json → Bool
  | [] => true
  | item :: items => item.readable && itemsReadable items
termination_by structural items => items

/-- Whether no member of an object has an unreadable part. -/
def membersReadable : List (String × Json) → Bool
  | [] => true
  | (_, value) :: members => value.readable && membersReadable members
termination_by structural members => members

end

end Json

end NestedQuery
