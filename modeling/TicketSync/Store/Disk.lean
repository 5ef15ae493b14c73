import TicketSync.Json.Printer
import TicketSync.Json.Reader
import TicketSync.Store.Query
import TicketSync.Ticket.Record

/-!
The store on disk: three tables, in which records have their JSON form. The index of locators is
keyed by their text, a tracker and an id with a slash between them. Writing a ticket removes the
keys that its last version still owns and then enters its own. `save` and `load` take the store to
the text of a file and back.
-/
namespace TicketSync

/-- The tables of a store on disk. -/
structure DiskStore where
  tickets : Dict Json := .empty
  index : Dict String := .empty
  subscriptions : Dict Json := .empty
  deriving Inhabited

namespace DiskStore

/-- A stored record that can no longer be read. -/
def unreadable : Failure := .json "stored record is malformed"

/-- The record of a JSON form in a table. -/
def readRecord {α : Type} (read : Json → Decoded α) (v : Json) : Outcome α :=
  match read v with
  | .ok x => .ok x
  | .error _ => .error unreadable

/-- The index without the keys of these locators that lead to an id. -/
def release (index : Dict String) (id : String) (ls : List Locator) : Dict String :=
  ls.foldl (fun index l => if index.get? l.display = some id then index.erase l.display else index)
    index

/-- The index with these locators leading to an id. -/
def enter (index : Dict String) (id : String) (ls : List Locator) : Dict String :=
  ls.foldl (fun index l => index.insert l.display id) index

/-- The store with a ticket under its id, in place of an earlier version if there is one. -/
def putTicket (s : DiskStore) (t : Ticket) (previous : Option Ticket) : DiskStore :=
  let index := match previous with
    | some old => release s.index t.id old.locators
    | none => s.index
  { s with index := enter index t.id t.locators, tickets := s.tickets.insert t.id t.toJson }

/-- Stores a new ticket under a fresh id. -/
def createTicket (s : DiskStore) (id : String) (t : Ticket) : Outcome (String × DiskStore) :=
  if s.tickets.contains id then .error (.alreadyExists ("ticket " ++ id))
  else .ok (id, s.putTicket { t with id } none)

/-- Stores a ticket in place of the one with its id. -/
def updateTicket (s : DiskStore) (t : Ticket) : Outcome DiskStore :=
  match s.tickets.get? t.id with
  | none => .error (ticketNotFound t.id)
  | some v => do
    let old ← readRecord Ticket.ofJson? v
    return s.putTicket t (some old)

/-- The ticket of a query. -/
def getTicket (s : DiskStore) (q : TicketQuery) : Outcome Ticket := do
  let id ← match q with
    | .id id => .ok id
    | .locator l => orFail (ticketNotFound q.display) (s.index.get? l.display)
  readRecord Ticket.ofJson? (← orFail (ticketNotFound q.display) (s.tickets.get? id))

/-- Stores a new subscription under a fresh id. -/
def createSubscription (s : DiskStore) (id : String) (x : Subscription) :
    Outcome (String × DiskStore) :=
  let x : Subscription := { x with id }
  .ok (id, { s with subscriptions := s.subscriptions.insert id x.toJson })

/-- Stores a subscription in place of the one with its id. -/
def updateSubscription (s : DiskStore) (x : Subscription) : Outcome DiskStore :=
  if s.subscriptions.contains x.id then
    .ok { s with subscriptions := s.subscriptions.insert x.id x.toJson }
  else .error (subscriptionNotFound x.id)

/-- The subscription with an id. -/
def getSubscription (s : DiskStore) (id : String) : Outcome Subscription := do
  readRecord Subscription.ofJson? (← orFail (subscriptionNotFound id) (s.subscriptions.get? id))

/-- Removes the subscription with an id. -/
def deleteSubscription (s : DiskStore) (id : String) : Outcome DiskStore :=
  if s.subscriptions.contains id then .ok { s with subscriptions := s.subscriptions.erase id }
  else .error (subscriptionNotFound id)

/-- The subscriptions of a tracker, or all. -/
def listSubscriptions (s : DiskStore) (tracker : Option String) : Outcome (List Subscription) := do
  return listed tracker (← s.subscriptions.values.mapM (readRecord Subscription.ofJson?))

/-! ### Files -/

/-- The tables as one value. -/
def toJson (s : DiskStore) : Json :=
  .obj [("tickets", .ofDict s.tickets), ("index", .ofTexts s.index),
    ("subscriptions", .ofDict s.subscriptions)]

/-- The tables of one value. -/
def ofJson? (v : Json) : Decoded DiskStore := do
  let r ← v.record ["tickets", "index", "subscriptions"]
  return ⟨← Json.required r "tickets" (Json.asDict .ok),
    ← Json.required r "index" (Json.asDict Json.asText),
    ← Json.required r "subscriptions" (Json.asDict .ok)⟩

/-- The text of the file that keeps a store. -/
def save (s : DiskStore) : String := s.toJson.toText

/-- The store of a file's text. -/
def load (text : String) : Outcome DiskStore :=
  match (Json.read? text).map ofJson? with
  | some (.ok s) => .ok s
  | _ => .error (.persistence "the file is no store")

end DiskStore

/-- A file that a store is kept in: its text, and whether a store is open on it. -/
structure DiskFile where
  text : String := DiskStore.save {}
  held : Bool := false

/-- Opens the store of a file. A file is not opened twice. -/
def DiskFile.acquire (f : DiskFile) : Outcome (DiskStore × DiskFile) :=
  if f.held then .error (.persistence "the file is already open")
  else do return (← DiskStore.load f.text, { f with held := true })

/-- Closes the store of a file. -/
def DiskFile.release (_ : DiskFile) (s : DiskStore) : DiskFile := ⟨s.save, false⟩

end TicketSync
