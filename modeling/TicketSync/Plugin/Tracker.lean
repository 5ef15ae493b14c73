import TicketSync.Plugin.Frame
import TicketSync.Plugin.Redial

/-!
A tracker that a plugin serves. Each operation is one call: its parameters go out in JSON, and the
result is read back. What the plugin answers to a removal is not looked at.
-/
namespace TicketSync.Plugin

variable {κ : Type}

/-- A tracker behind a connection. -/
structure RemoteTracker where
  name : String
  policy : RetryPolicy := {}
  deriving DecidableEq, Repr, Inhabited

/-- The value of an answer, which has to have the form asked for. -/
def readResult {α : Type} (read : Json → Decoded α) (v : Json) : Outcome α :=
  match read v with
  | .ok x => .ok x
  | .error _ => .error (.json "the result has not the form asked for")

namespace RemoteTracker

/-- Has the plugin perform an operation. -/
def invoke {α : Type} (t : RemoteTracker) (operation : String) (params : Json)
    (read : Json → Decoded α) : Script (Redial κ) α := do
  let v ← Redial.call t.policy (joinMethod t.name operation) params
  .ofOutcome (readResult read v)

/-- Runs a method: the task id. -/
def call (t : RemoteTracker) (r : CallRequest) : Script (Redial κ) String :=
  t.invoke callOperation r.toJson Json.asText

/-- Registers a webhook: its reference. -/
def subscribe (t : RemoteTracker) (r : SubscribeRequest) : Script (Redial κ) String :=
  t.invoke subscribeOperation r.toJson Json.asText

/-- Removes a webhook. -/
def unsubscribe (t : RemoteTracker) (ref : String) : Script (Redial κ) Unit :=
  t.invoke unsubscribeOperation (UnsubscribeParams.toJson ⟨ref⟩) fun _ => .ok ()

/-- Reads a webhook request: an update, or nothing. -/
def handleWebhook (t : RemoteTracker) (x : Subscription) (r : WebhookRequest) :
    Script (Redial κ) (Option Update) :=
  t.invoke handleWebhookOperation (WebhookParams.toJson ⟨x, r⟩) (Json.asOption Update.ofJson?)

end RemoteTracker
end TicketSync.Plugin
