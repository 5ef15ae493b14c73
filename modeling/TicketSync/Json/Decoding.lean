import TicketSync.Json.Basic
import TicketSync.Power

/-!
From JSON values to domain types. A record is an object whose fields go by name, where unknown
fields are passed over and a known one must not come twice, or an array whose items go by position.
-/
namespace TicketSync

/-- Why a value is not of the form that is asked for. -/
inductive Misfit where
  | form
  | actionName (text : String)
  deriving DecidableEq, Repr

/-- A decoded value, or why there is none. -/
abbrev Decoded (α : Type) := Except Misfit α

namespace Json

/-- A string. -/
def asText : Json → Decoded String
  | .str s => .ok s
  | _ => .error .form

/-- A truth value. -/
def asFlag : Json → Decoded Bool
  | .bool b => .ok b
  | _ => .error .form

/-- An integer between two bounds. -/
def asInt (least greatest : Int) : Json → Decoded Int
  | .int i => if least ≤ i ∧ i ≤ greatest then .ok i else .error .form
  | _ => .error .form

/-- A natural number of at most `bits` bits. -/
def asNat (bits : Nat) (v : Json) : Decoded Nat :=
  (asInt 0 (twoTo bits - 1) v).map Int.toNat

/-- Null, or a value of another form. -/
def asOption {α : Type} (read : Json → Decoded α) : Json → Decoded (Option α)
  | .null => .ok none
  | v => (read v).map some

/-- A list of values of one form. -/
def asList {α : Type} (read : Json → Decoded α) : Json → Decoded (List α)
  | .arr items => items.mapM read
  | _ => .error .form

/-- A field of an object with a value of one form. -/
def asEntry {α : Type} (read : Json → Decoded α) (e : String × Json) : Decoded (String × α) :=
  (read e.2).map fun x => (e.1, x)

/-- A map of values of one form; of several fields with one name the last counts. -/
def asDict {α : Type} (read : Json → Decoded α) : Json → Decoded (Dict α)
  | .obj fields => (fields.mapM (asEntry read)).map Dict.ofList
  | _ => .error .form

/-- Whether one of the names is the name of two fields. -/
def repeats (names : List String) (fields : List (String × Json)) : Bool :=
  names.any fun n => 1 < (fields.filter (·.1 = n)).length

/-- The fields of a record with these field names. -/
def record (names : List String) : Json → Decoded (List (String × Json))
  | .obj fields => if repeats names fields then .error .form else .ok fields
  | .arr items => if names.length < items.length then .error .form else .ok (names.zip items)
  | _ => .error .form

/-- The field of a name, which has to be there. -/
def required {α : Type} (fields : List (String × Json)) (name : String)
    (read : Json → Decoded α) : Decoded α :=
  match Dict.find name fields with
  | some v => read v
  | none => .error .form

/-- The field of a name, or a default where it is missing. -/
def optional {α : Type} (fields : List (String × Json)) (name : String) (default : α)
    (read : Json → Decoded α) : Decoded α :=
  match Dict.find name fields with
  | some v => read v
  | none => .ok default

end Json
end TicketSync
