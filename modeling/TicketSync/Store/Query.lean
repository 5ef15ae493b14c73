import TicketSync.Failure
import TicketSync.Subscription
import TicketSync.Ticket.Basic

/-! How stored records are asked for, and what every store says and lists alike. -/
namespace TicketSync

/-- How to find a ticket: by its id, or by an address that it is known under. -/
inductive TicketQuery where
  | id (id : String)
  | locator (l : Locator)
  deriving DecidableEq, Repr, Inhabited

/-- The text of a query in messages. -/
def TicketQuery.display : TicketQuery → String
  | .id key => key
  | .locator l => l.display

/-- No ticket answers a query. -/
def ticketNotFound (key : String) : Failure := .notFound "ticket" key

/-- No subscription has an id. -/
def subscriptionNotFound (id : String) : Failure := .notFound "subscription" id

/-- A value that has to be there. -/
def orFail {α : Type} (f : Failure) : Option α → Outcome α
  | some x => .ok x
  | none => .error f

/-- The subscriptions of a tracker, or all, in the order of lists. -/
def listed (tracker : Option String) (subscriptions : List Subscription) : List Subscription :=
  (subscriptions.filter fun s => tracker.all (· = s.trackerName)).mergeSort
    fun a b => !b.listedBefore a

end TicketSync
