import TicketSync.Engine.Inbox
import TicketSync.Engine.World
import TicketSync.Rehearsal.Cast

/-! A player that listens to an inbox by default, with a handler that writes down what it gets. -/
namespace TicketSync.Rehearsal

open Engine

/-- The surroundings of a listening player: the log of what it read and what was handled. -/
def listening (p : Player) : Responder Inbox (List Event)
  | .takesNext, log => (true, log)
  | .read x r, log => (Player.read r, log ++ [.passed p.name x r])
  | .handle x u, log => ((), log ++ [.handled x u])

/-- Listens to deliveries to their end: the outcome and the log. -/
def listen (p : Player) (deliveries : List Delivery) : Outcome Unit × List Event :=
  (Inbox.drain deliveries).run (listening p) []

end TicketSync.Rehearsal
