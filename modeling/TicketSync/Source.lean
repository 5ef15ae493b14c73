import TicketSync.Json.Decoding
import TicketSync.Power

/-!
Values as a document format gives them. A format says what a value is where a text, a number, a
list, a map or just any value is asked for; records and maps are read on top of that, field by
field in the order of the document, so that the first fault in this order is the one reported.
-/
namespace TicketSync

/-- The key of an entry where keys may be of any kind. -/
inductive LooseKey where
  | text (s : String)
  | index (n : Nat)
  | other
  deriving DecidableEq, Repr

/-- A value where its form decides how it is read. -/
inductive LooseView (σ : Type) where
  | items (items : List σ)
  | entries (entries : List (LooseKey × σ))
  | other

/-- A format of documents whose values are of type `σ`. -/
class Source (σ : Type) where
  /-- The text of a value where a text is asked for. -/
  asText : σ → Decoded String
  /-- The number of a value where a natural number of 64 bits is asked for. -/
  asNat : σ → Decoded Nat
  /-- Whether a value stands for none where one may be absent. -/
  isAbsent : σ → Bool
  /-- The items of a value where a list is asked for. -/
  asItems : σ → Decoded (List σ)
  /-- The keys and values where a map is asked for. -/
  asEntries : σ → Decoded (List (σ × σ))
  /-- The items of a value that is a record by position, in formats that have these. -/
  byPosition? : σ → Option (List σ)
  /-- The value where any value may stand, in normal form. -/
  asJson : σ → Decoded Json
  /-- The value by its form. -/
  view : σ → LooseView σ

namespace Source

variable {σ φ α : Type} [Source σ]

/-- The fields that have a reader, each read in turn. None of them may come twice. -/
def readEntries (reader : String → Option (σ → Decoded φ)) (seen : List String) :
    List (σ × σ) → Decoded (List φ)
  | [] => .ok []
  | (key, value) :: rest => do
    let name ← asText key
    match reader name with
    | none => readEntries reader seen rest
    | some read =>
      if name ∈ seen then .error .form
      else do
        let x ← read value
        let xs ← readEntries reader (name :: seen) rest
        return x :: xs

/-- Items read in turn as the fields of these names. -/
def readItems (reader : String → Option (σ → Decoded φ)) : List String → List σ → Decoded (List φ)
  | _, [] => .ok []
  | [], _ :: _ => .error .form
  | name :: names, value :: rest =>
    match reader name with
    | none => .error .form
    | some read => do
      let x ← read value
      let xs ← readItems reader names rest
      return x :: xs

/-- The fields of a record, in the order of the document. -/
def readRecord (names : List String) (reader : String → Option (σ → Decoded φ)) (v : σ) :
    Decoded (List φ) :=
  match byPosition? v with
  | some items => readItems reader names items
  | none => do readEntries reader [] (← asEntries v)

/-- The fields of a record as they stand, with their names. -/
def record (names : List String) (v : σ) : Decoded (List (String × σ)) :=
  readRecord names (fun name => if name ∈ names then some fun v => .ok (name, v) else none) v

/-- The field of a name, which has to be there. -/
def required (fields : List (String × σ)) (name : String) (read : σ → Decoded α) : Decoded α :=
  match Dict.find name fields with
  | some v => read v
  | none => .error .form

/-- The field of a name, or a default where it is missing. -/
def optional (fields : List (String × σ)) (name : String) (default : α) (read : σ → Decoded α) :
    Decoded α :=
  match Dict.find name fields with
  | some v => read v
  | none => .ok default

/-- A value that may be absent. -/
def asOption (read : σ → Decoded α) (v : σ) : Decoded (Option α) :=
  if isAbsent v then .ok none else (read v).map some

/-- A list of values of one form. -/
def asList (read : σ → Decoded α) (v : σ) : Decoded (List α) := do
  (← asItems v).mapM read

/-- A natural number of at most `bits` bits. -/
def asBoundedNat (bits : Nat) (v : σ) : Decoded Nat := do
  let n ← asNat v
  if n < twoTo bits then return n else .error .form

/-- A map of texts; of several entries under one key the last counts. -/
def asTexts (v : σ) : Decoded (Dict String) := do
  let entries ← (← asEntries v).mapM fun (key, value) => do
    return (← asText key, ← asText value)
  return .ofList entries

end Source

/-- JSON as a format of documents. An array can be a record by position. -/
instance : Source Json where
  asText := Json.asText
  asNat := Json.asNat 64
  isAbsent
    | .null => true
    | _ => false
  asItems
    | .arr items => .ok items
    | _ => .error .form
  asEntries
    | .obj fields => .ok (fields.map fun (k, v) => (.str k, v))
    | _ => .error .form
  byPosition?
    | .arr items => some items
    | _ => none
  asJson v := .ok v.normal
  view
    | .arr items => .items items
    | .obj fields => .entries (fields.map fun (k, v) => (.text k, v))
    | _ => .other

end TicketSync
