import TicketSync.Dict
import TicketSync.Text.Blank

/-!
Tickets. A ticket is one unit of work as all trackers see it: each tracker that has seen it owns a
variation with its own id and the content it knew last. Updates arrive from trackers and are folded
into tickets.
-/
namespace TicketSync

/-- The address of a task inside one tracker. -/
structure Locator where
  tracker : String
  id : String
  deriving DecidableEq, Repr, Inhabited

/-- Whether one half is blank. -/
def Locator.isEmpty (l : Locator) : Bool :=
  Text.isAllBlank l.tracker || Text.isAllBlank l.id

/-- The two halves with a slash between them. -/
def Locator.display (l : Locator) : String :=
  l.tracker ++ "/" ++ l.id

/-- What a task says. -/
structure Content where
  title : String := ""
  body : String := ""
  fields : Dict String := .empty
  deriving DecidableEq, Inhabited

/-- What one tracker knows of a ticket. -/
structure Variation where
  id : String := ""
  content : Content := {}
  deriving DecidableEq, Inhabited

/-- One unit of work across trackers. The id is empty until the ticket is stored. -/
structure Ticket where
  id : String := ""
  variations : Dict Variation := .empty
  deriving DecidableEq, Inhabited

/-- A change that a tracker reports. -/
structure Update where
  triggerName : String := ""
  url : String := ""
  receivedFrom : Locator := ⟨"", ""⟩
  content : Content := {}
  deriving DecidableEq, Inhabited

namespace Ticket

/-- Whether the ticket has an id. -/
def isPersisted (t : Ticket) : Bool := !t.id.isEmpty

/-- The variation of a tracker, empty when it has not participated. -/
def variation (t : Ticket) (tracker : String) : Variation :=
  (t.variations.get? tracker).getD {}

/-- The id that a tracker knows the ticket by, empty when it has not participated. -/
def taskId (t : Ticket) (tracker : String) : String :=
  (t.variation tracker).id

/-- The ticket with the variation that an update reports. -/
def patch (t : Ticket) (u : Update) : Ticket :=
  { t with variations :=
      t.variations.insert u.receivedFrom.tracker ⟨u.receivedFrom.id, u.content⟩ }

/-- The ticket with the id that a tracker knows it by; what is known of the content is kept. -/
def setTaskId (t : Ticket) (tracker id : String) : Ticket :=
  { t with variations := t.variations.insert tracker { t.variation tracker with id } }

/-- The addresses that the ticket can be found under, in the order of the trackers. -/
def locators (t : Ticket) : List Locator :=
  (t.variations.toList.map fun e => ⟨e.1, e.2.id⟩).filter fun l => !l.isEmpty

end Ticket
end TicketSync
