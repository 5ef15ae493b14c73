import TicketSync.Binary64
import TicketSync.Dict

/-!
JSON values. An object is a list of fields, so that a text with a repeated key can be told from one
without; `Json.normal` keeps the last field of each key and sorts the keys, and an object in normal
form has the entries of a `Dict`.
-/
namespace TicketSync

/-- A JSON value. Integers between `-2 ^ 63` and `2 ^ 64 - 1` are `int`, all other numbers `real`. -/
inductive Json where
  | null
  | bool (b : Bool)
  | int (i : Int)
  | real (x : Binary64)
  | str (s : String)
  | arr (items : List Json)
  | obj (fields : List (String × Json))
  deriving Inhabited

namespace Json

/-- The object with the entries of a map. -/
def ofDict (d : Dict Json) : Json := .obj d.entries

/-- The object that maps texts to texts. -/
def ofTexts (d : Dict String) : Json := ofDict (d.map .str)

/-- An object from fields in any order. -/
def ofFields (fields : List (String × Json)) : Json := ofDict (.ofList fields)

/-- The array of texts. -/
def ofStrings (items : List String) : Json := .arr (items.map .str)

/-- A natural number. -/
def nat (n : Nat) : Json := .int n

/-- The first field of an object under a key. -/
def field? : Json → String → Option Json
  | .obj fields, k => Dict.find k fields
  | _, _ => none

/-- The text of a string. -/
def str? : Json → Option String
  | .str s => some s
  | _ => none

/-- The word for the kind of a value in messages. -/
def kind : Json → String
  | .null => "null"
  | .bool _ => "bool"
  | .int _ | .real _ => "number"
  | .str _ => "string"
  | .arr _ => "list"
  | .obj _ => "map"

mutual
/-- Equality of values. An integer is never equal to a double; the two zeros among the doubles are. -/
def same : Json → Json → Bool
  | .null, .null => true
  | .bool a, .bool b => a == b
  | .int a, .int b => a == b
  | .real a, .real b => a.same b
  | .str a, .str b => a == b
  | .arr a, .arr b => sameItems a b
  | .obj a, .obj b => sameFields a b
  | _, _ => false

/-- Equality of values, one by one. -/
def sameItems : List Json → List Json → Bool
  | [], [] => true
  | a :: as, b :: bs => same a b && sameItems as bs
  | _, _ => false

/-- Equality of fields, one by one. -/
def sameFields : List (String × Json) → List (String × Json) → Bool
  | [], [] => true
  | (k, a) :: as, (l, b) :: bs => k == l && same a b && sameFields as bs
  | _, _ => false
end

mutual
/-- The value with the keys of every object in ascending order, the last of equal keys kept. -/
def normal : Json → Json
  | .arr items => .arr (normalItems items)
  | .obj fields => .ofFields (normalFields fields)
  | v => v

/-- `normal` of every item. -/
def normalItems : List Json → List Json
  | [] => []
  | v :: rest => normal v :: normalItems rest

/-- `normal` of every field's value. -/
def normalFields : List (String × Json) → List (String × Json)
  | [] => []
  | (k, v) :: rest => (k, normal v) :: normalFields rest
end

end Json
end TicketSync
