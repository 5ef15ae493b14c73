import TicketSync.Script.Basic
import TicketSync.Tracker.Request

/-!
How a tracker listens by default: each delivery in its inbox is read by the tracker, and what it
reads as an update is handled before the next delivery is taken. Deliveries that are ignored or
rejected do not end the listening; a cancelled token or the end of the inbox does.
-/
namespace TicketSync

namespace Inbox

/-- A question of a listening tracker: whether the next delivery is taken, where a cancelled token
ends the wait for it; what the tracker reads in it; and to handle an update. -/
inductive Question where
  | takesNext
  | read (x : Subscription) (r : WebhookRequest)
  | handle (x : Subscription) (u : Update)
  deriving DecidableEq

/-- The type of the answer to a question. -/
abbrev Question.Answer : Question → Type
  | takesNext => Bool
  | read .. => Outcome (Option Update)
  | handle .. => Unit

end Inbox

/-- The dialogue of a listening tracker. -/
abbrev Inbox : Dialogue := ⟨Inbox.Question, Inbox.Question.Answer⟩

namespace Inbox

/-- Asks a question of a listening tracker. -/
def inquire (q : Question) : Script Inbox q.Answer := Script.ask q Script.done

/-- The update to handle after a delivery was read. -/
def toHandle : Outcome (Option Update) → Option Update
  | .ok u => u
  | .error _ => none

/-- What becomes of one delivery. -/
def deliver (d : Delivery) : Script Inbox Unit := do
  match toHandle (← inquire (.read d.subscription d.request)) with
  | some u => inquire (.handle d.subscription u)
  | none => return ()

/-- Listens to deliveries until their end. -/
def drain : List Delivery → Script Inbox Unit
  | [] => .fail .cancelled
  | d :: rest => do
    if ← inquire .takesNext then
      deliver d
      drain rest
    else .fail .cancelled

end Inbox
end TicketSync
