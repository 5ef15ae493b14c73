import TicketSync.Script.Basic
import TicketSync.Store.Query
import TicketSync.Tracker.Request

/-!
What the engine asks of its surroundings: whether its token is cancelled, the values of conditions
and variables, the records of the store, and the trackers. Every effect of the engine is one of
these questions, so the questions of a script are all that others can see of it.
-/
namespace TicketSync.Engine

/-- A question of the engine. -/
inductive Question where
  | isCancelled
  | now
  | condition (text : String) (u : Update) (t : Ticket)
  | render (vars : Vars) (u : Update) (t : Ticket)
  | findTicket (q : TicketQuery)
  | createTicket (t : Ticket)
  | updateTicket (t : Ticket)
  | createSubscription (x : Subscription)
  | updateSubscription (x : Subscription)
  | findSubscription (id : String)
  | deleteSubscription (id : String)
  | listSubscriptions (tracker : Option String)
  | isRegistered (tracker : String)
  | call (tracker : String) (r : CallRequest)
  | subscribe (tracker : String) (r : SubscribeRequest)
  | unsubscribe (tracker ref : String)
  | handleWebhook (tracker : String) (x : Subscription) (r : WebhookRequest)
  deriving DecidableEq

/-- The type of the answer to a question. -/
abbrev Question.Answer : Question → Type
  | isCancelled => Bool
  | now => Instant
  | condition .. => Outcome Bool
  | render .. => Outcome Vars
  | findTicket _ => Outcome Ticket
  | createTicket _ => Outcome String
  | updateTicket _ => Outcome Unit
  | createSubscription _ => Outcome String
  | updateSubscription _ => Outcome Unit
  | findSubscription _ => Outcome Subscription
  | deleteSubscription _ => Outcome Unit
  | listSubscriptions _ => Outcome (List Subscription)
  | isRegistered _ => Bool
  | call .. => Outcome String
  | subscribe .. => Outcome String
  | unsubscribe .. => Outcome Unit
  | handleWebhook .. => Outcome (Option Update)

end Engine

/-- The dialogue of the engine with its surroundings. -/
abbrev Engine : Dialogue := ⟨Engine.Question, Engine.Question.Answer⟩

namespace Engine

/-- Asks a question of the engine. -/
def inquire (q : Question) : Script Engine q.Answer := Script.ask q Script.done

/-- Fails when no tracker of a name is registered. -/
def requireTracker (name : String) : Script Engine Unit := do
  if ← inquire (.isRegistered name) then return () else .fail (.trackerNotRegistered name)

/-- Fails when the token is cancelled. -/
def checkpoint : Script Engine Unit := do
  if ← inquire .isCancelled then .fail .cancelled else return ()

end Engine
end TicketSync
