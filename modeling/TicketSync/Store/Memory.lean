import TicketSync.Store.Query

/-!
The store in memory. An index leads from locators to the ids of their owners. Writing a ticket first
takes its id out of the index and then enters each of its locators, so that a locator held by
another ticket moves over.
-/
namespace TicketSync

/-- An index from locators to ids, with at most one entry for a locator. -/
abbrev LocatorIndex := List (Locator × String)

/-- The owner of a locator. -/
def LocatorIndex.owner? (index : LocatorIndex) (l : Locator) : Option String :=
  (List.find? (·.1 = l) index).map (·.2)

/-- The index with an owner for a locator, in place of the one before. -/
def LocatorIndex.assign (index : LocatorIndex) (id : String) (l : Locator) : LocatorIndex :=
  (l, id) :: index.filter (·.1 ≠ l)

/-- The index with the locators of a ticket, and no others, leading to it. -/
def LocatorIndex.enter (index : LocatorIndex) (t : Ticket) : LocatorIndex :=
  t.locators.foldl (fun index l => index.assign t.id l) (index.filter (·.2 ≠ t.id))

/-- Tickets and subscriptions in memory. -/
structure MemoryStore where
  tickets : Dict Ticket := .empty
  index : LocatorIndex := []
  subscriptions : Dict Subscription := .empty
  deriving Inhabited

namespace MemoryStore

/-- The store with a ticket under its id. -/
def putTicket (s : MemoryStore) (t : Ticket) : MemoryStore :=
  { s with index := s.index.enter t, tickets := s.tickets.insert t.id t }

/-- Stores a new ticket under a fresh id. -/
def createTicket (s : MemoryStore) (id : String) (t : Ticket) : Outcome (String × MemoryStore) :=
  .ok (id, s.putTicket { t with id })

/-- Stores a ticket in place of the one with its id. -/
def updateTicket (s : MemoryStore) (t : Ticket) : Outcome MemoryStore :=
  if s.tickets.contains t.id then .ok (s.putTicket t) else .error (ticketNotFound t.id)

/-- The ticket of a query. -/
def getTicket (s : MemoryStore) (q : TicketQuery) : Outcome Ticket :=
  let id := match q with
    | .id id => some id
    | .locator l => s.index.owner? l
  orFail (ticketNotFound q.display) (id.bind s.tickets.get?)

/-- Stores a new subscription under a fresh id. -/
def createSubscription (s : MemoryStore) (id : String) (x : Subscription) :
    Outcome (String × MemoryStore) :=
  .ok (id, { s with subscriptions := s.subscriptions.insert id { x with id } })

/-- Stores a subscription in place of the one with its id. -/
def updateSubscription (s : MemoryStore) (x : Subscription) : Outcome MemoryStore :=
  if s.subscriptions.contains x.id then
    .ok { s with subscriptions := s.subscriptions.insert x.id x }
  else .error (subscriptionNotFound x.id)

/-- The subscription with an id. -/
def getSubscription (s : MemoryStore) (id : String) : Outcome Subscription :=
  orFail (subscriptionNotFound id) (s.subscriptions.get? id)

/-- Removes the subscription with an id. -/
def deleteSubscription (s : MemoryStore) (id : String) : Outcome MemoryStore :=
  if s.subscriptions.contains id then .ok { s with subscriptions := s.subscriptions.erase id }
  else .error (subscriptionNotFound id)

/-- The subscriptions of a tracker, or all. -/
def listSubscriptions (s : MemoryStore) (tracker : Option String) : Outcome (List Subscription) :=
  .ok (listed tracker s.subscriptions.values)

end MemoryStore
end TicketSync
