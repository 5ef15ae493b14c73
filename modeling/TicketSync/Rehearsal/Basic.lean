import TicketSync.Engine.Session
import TicketSync.Rehearsal.Cast

/-!
Rehearsals: a session with a cast of players for trackers. Nobody outside can reach its endpoint,
so what is posted to it while it listens fails to connect.
-/
namespace TicketSync

open Engine

/-- An engine in rehearsal. -/
structure Rehearsal where
  cast : Rehearsal.Cast
  session : Session Rehearsal.Tally

namespace Rehearsal

/-- The players that listen in a way of their own, in the order of their ends. -/
def listeners (r : Rehearsal) : List Conduct :=
  (r.cast.toList.filterMap fun e => e.2.listen).mergeSort fun a b => a.delay ≤ b.delay

/-- How listening ends when it is cancelled, unless a player ends it before. -/
def listened (r : Rehearsal) : Outcome Unit :=
  let ends := r.listeners.map fun c =>
    match c.failure with
    | some f => .error f
    | none => .ok ()
  (Verdict.ofEnds ends).outcome

/-- Lives through a session with a token of its own: its outcome, and what came of each post. -/
def run (r : Rehearsal) (posts : Nat) : Outcome Unit × List Failure × Rehearsal :=
  let before := r.session
  let token (s : Session Tally) (isCancelled : Bool) : Session Tally :=
    { s with world := { s.world with isCancelled } }
  let (outcome, after) := (token before false).live r.listened
  (outcome, List.replicate posts (.transport "connect"),
    { r with session := token after before.world.isCancelled })

/-- The tickets that were created, in order, as they are stored now. -/
def tickets (r : Rehearsal) : List Ticket :=
  let s := r.session
  (List.range s.world.tickets).filterMap fun n =>
    (s.world.store.getTicket (.id (s.surroundings.ticketId (n + 1)))).toOption

/-- The subscriptions in the store, in the order of their creation. -/
def subscriptions (r : Rehearsal) : List Subscription :=
  ((r.session.world.store.listSubscriptions none).toOption).getD []

/-- Puts a ticket into the store in place of the one with its id. -/
def replaceTicket (r : Rehearsal) (t : Ticket) : Outcome Unit × Rehearsal :=
  let w := r.session.world
  let (outcome, world) := w.keep (w.store.updateTicket t)
  (outcome, { r with session := { r.session with world } })

/-- Puts a new ticket into the store. -/
def addTicket (r : Rehearsal) (t : Ticket) : Outcome String × Rehearsal :=
  let w := r.session.world
  match w.store.createTicket (r.session.surroundings.ticketId (w.tickets + 1)) t with
  | .ok (id, store) =>
    let world := { w with store, tickets := w.tickets + 1 }
    (.ok id, { r with session := { r.session with world } })
  | .error f => (.error f, r)

end Rehearsal
end TicketSync
