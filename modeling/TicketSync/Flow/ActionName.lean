import TicketSync.Failure
import TicketSync.Text.Blank

/-! Names of actions: a tracker and one of its methods, with a single slash between them. -/
namespace TicketSync

/-- A tracker and one of its methods. -/
structure ActionName where
  tracker : String
  method : String
  deriving DecidableEq, Repr, Inhabited

namespace ActionName

/-- The two halves with a slash between them. -/
def display (n : ActionName) : String := n.tracker ++ "/" ++ n.method

/-- The name of a text with exactly one slash and no blank half. -/
def parse? (s : String) : Option ActionName :=
  let tracker := s.toList.takeWhile (· ≠ '/')
  match s.toList.dropWhile (· ≠ '/') with
  | [] => none
  | _ :: method =>
    if method.contains '/' || tracker.all Text.isBlank || method.all Text.isBlank then none
    else some ⟨String.ofList tracker, String.ofList method⟩

/-- A name whose text reads back: no slash and something visible in either half. -/
def WellFormed (n : ActionName) : Prop :=
  '/' ∉ n.tracker.toList ∧ '/' ∉ n.method.toList ∧
    Text.isAllBlank n.tracker = false ∧ Text.isAllBlank n.method = false

end ActionName
end TicketSync
