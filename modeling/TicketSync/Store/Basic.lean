import TicketSync.Store.Disk
import TicketSync.Store.Memory

/-!
The two stores behind one set of operations. An operation that fails leaves the store as it is. New
records get an id from the caller, which has to be fresh.
-/
namespace TicketSync

/-- A store. -/
inductive Store where
  | memory (s : MemoryStore)
  | disk (s : DiskStore)
  deriving Inhabited

namespace Store

/-- Stores a new ticket under a fresh id. -/
def createTicket (s : Store) (id : String) (t : Ticket) : Outcome (String × Store) :=
  match s with
  | .memory s => (s.createTicket id t).map fun (id, s) => (id, .memory s)
  | .disk s => (s.createTicket id t).map fun (id, s) => (id, .disk s)

/-- Stores a ticket in place of the one with its id. -/
def updateTicket (s : Store) (t : Ticket) : Outcome Store :=
  match s with
  | .memory s => (s.updateTicket t).map .memory
  | .disk s => (s.updateTicket t).map .disk

/-- The ticket of a query. -/
def getTicket (s : Store) (q : TicketQuery) : Outcome Ticket :=
  match s with
  | .memory s => s.getTicket q
  | .disk s => s.getTicket q

/-- Stores a new subscription under a fresh id. -/
def createSubscription (s : Store) (id : String) (x : Subscription) : Outcome (String × Store) :=
  match s with
  | .memory s => (s.createSubscription id x).map fun (id, s) => (id, .memory s)
  | .disk s => (s.createSubscription id x).map fun (id, s) => (id, .disk s)

/-- Stores a subscription in place of the one with its id. -/
def updateSubscription (s : Store) (x : Subscription) : Outcome Store :=
  match s with
  | .memory s => (s.updateSubscription x).map .memory
  | .disk s => (s.updateSubscription x).map .disk

/-- The subscription with an id. -/
def getSubscription (s : Store) (id : String) : Outcome Subscription :=
  match s with
  | .memory s => s.getSubscription id
  | .disk s => s.getSubscription id

/-- Removes the subscription with an id. -/
def deleteSubscription (s : Store) (id : String) : Outcome Store :=
  match s with
  | .memory s => (s.deleteSubscription id).map .memory
  | .disk s => (s.deleteSubscription id).map .disk

/-- The subscriptions of a tracker, or all, in the order of lists. -/
def listSubscriptions (s : Store) (tracker : Option String) : Outcome (List Subscription) :=
  match s with
  | .memory s => s.listSubscriptions tracker
  | .disk s => s.listSubscriptions tracker

/-- The store after it is closed and opened again. What is in memory stays there. -/
def reopen : Store → Outcome Store
  | .memory s => .ok (.memory s)
  | .disk s => (DiskStore.load s.save).map .disk

end Store

/-! ### Histories -/

/-- An operation on a store. -/
inductive StoreCall where
  | createTicket (id : String) (t : Ticket)
  | updateTicket (t : Ticket)
  | getTicket (q : TicketQuery)
  | createSubscription (id : String) (x : Subscription)
  | updateSubscription (x : Subscription)
  | getSubscription (id : String)
  | deleteSubscription (id : String)
  | listSubscriptions (tracker : Option String)
  | reopen

/-- What an operation answers when it succeeds. -/
inductive StoreReply where
  | done
  | id (id : String)
  | ticket (t : Ticket)
  | subscription (x : Subscription)
  | subscriptions (xs : List Subscription)
  deriving Inhabited

/-- A store with the answer of an operation, or as it was with its failure. -/
def Store.settle {α : Type} (s : Store) (r : Outcome α) (f : α → StoreReply × Store) :
    Outcome StoreReply × Store :=
  match r with
  | .ok x => ((.ok (f x).1), (f x).2)
  | .error e => (.error e, s)

/-- One operation on a store: its answer and the store after it. -/
def Store.perform (s : Store) : StoreCall → Outcome StoreReply × Store
  | .createTicket id t => s.settle (s.createTicket id t) fun (id, s) => (.id id, s)
  | .updateTicket t => s.settle (s.updateTicket t) fun s => (.done, s)
  | .getTicket q => s.settle (s.getTicket q) fun t => (.ticket t, s)
  | .createSubscription id x => s.settle (s.createSubscription id x) fun (id, s) => (.id id, s)
  | .updateSubscription x => s.settle (s.updateSubscription x) fun s => (.done, s)
  | .getSubscription id => s.settle (s.getSubscription id) fun x => (.subscription x, s)
  | .deleteSubscription id => s.settle (s.deleteSubscription id) fun s => (.done, s)
  | .listSubscriptions tracker =>
    s.settle (s.listSubscriptions tracker) fun xs => (.subscriptions xs, s)
  | .reopen => s.settle s.reopen fun s => (.done, s)

/-- The answers of operations one after the other, and the store after them. -/
def Store.performAll (s : Store) : List StoreCall → List (Outcome StoreReply) × Store
  | [] => ([], s)
  | c :: rest =>
    let (answer, s) := s.perform c
    let (answers, s) := s.performAll rest
    (answer :: answers, s)

end TicketSync
