import TicketSync.Json.Decoding

/-! Variables: templates by name, and whether they have been rendered. -/
namespace TicketSync

/-- Named templates, or their renderings when `evaluated` is set. -/
structure Vars where
  values : Dict String := .empty
  evaluated : Bool := false
  deriving DecidableEq, Inhabited

namespace Vars

/-- Equality of names and values; it passes over whether the values have been rendered. -/
def same (v w : Vars) : Bool := v.values = w.values

/-- The value of a name. -/
def get? (v : Vars) (name : String) : Option String := v.values.get? name

/-- The variables with a value under a name. -/
def insert (v : Vars) (name value : String) : Vars :=
  { v with values := v.values.insert name value }

/-- How many variables there are. -/
def size (v : Vars) : Nat := v.values.size

/-- Whether there are no variables. -/
def isEmpty (v : Vars) : Bool := v.values.isEmpty

/-- The names and values in the order of the names. -/
def toList (v : Vars) : List (String × String) := v.values.toList

/-- Templates under names; of several under one name the last one counts. -/
def ofList (l : List (String × String)) : Vars := ⟨.ofList l, false⟩

/-- The JSON form: an object of texts. -/
def toJson (v : Vars) : Json := .ofTexts v.values

/-- The variables of a JSON form, not yet rendered. -/
def ofJson? (v : Json) : Decoded Vars := do
  return ⟨← v.asDict Json.asText, false⟩

end Vars
end TicketSync
