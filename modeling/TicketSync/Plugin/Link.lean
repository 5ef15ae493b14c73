import TicketSync.Plugin.Service
import TicketSync.Plugin.Tracker

/-!
Both sides of a connection that stays up: what the engine asks goes out as a line, is dispatched to
the tracker that is served, and comes back as a line. So an operation of a remote tracker becomes a
script that asks the served tracker itself.
-/
namespace TicketSync.Plugin.Link

/-- A response read from a line, if it belongs to a request. -/
def readReply (id : Nat) (line : List Char) : Outcome Json :=
  match readLine? Response.ofJson? line with
  | some r => if r.id = id then r.outcome else .error .connectionLost
  | none => .error .connectionLost

/-- A call of a number over the connection, to a tracker that is served under a name. -/
def exchange (served : String) (id : Nat) (method : String) (params : Json) :
    Script Service (Outcome Json) :=
  match Service.request? (Request.line ⟨id, method, params⟩) with
  | none => .done (.error .connectionLost)
  | some r => do
    let outcome ← (Service.dispatch served r.method r.params).attempt
    return readReply id (Service.respond r.id outcome).line

/-- How a connection that stays up answers a caller. -/
def answer (served : String) (id : Nat) :
    (q : Redial.Question Unit) → Script Service q.Answer
  | .current => .done (some ())
  | .dial => .done (.ok ())
  | .install _ => .done ()
  | .send _ method params => exchange served id method params
  | .invalidate _ => .done ()
  | .pause => .done (.ok ())

/-- An operation of a remote tracker, carried over the connection. -/
def carry {α : Type} (served : String) (id : Nat) (s : Script (Redial Unit) α) :
    Script Service α :=
  s.relay (answer served id)

end TicketSync.Plugin.Link
