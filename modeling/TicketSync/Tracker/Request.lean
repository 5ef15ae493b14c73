import TicketSync.Subscription
import TicketSync.Ticket.Record
import TicketSync.Vars.Basic

/-! What trackers are asked: to run a method, to register a webhook, to read a webhook request. -/
namespace TicketSync

/-- A request to run a method. The task id is empty when the tracker has none for the ticket. -/
structure CallRequest where
  method : String
  vars : Vars
  taskId : String := ""
  deriving DecidableEq, Inhabited

/-- A request to register a webhook. -/
structure SubscribeRequest where
  webhookUrl : String
  vars : Vars
  deriving DecidableEq, Inhabited

/-- A webhook request as it came in. -/
structure WebhookRequest where
  method : String
  headers : Dict String := .empty
  body : String := ""
  deriving DecidableEq, Inhabited

/-- A webhook request with the subscription that it is addressed to. -/
structure Delivery where
  subscription : Subscription
  request : WebhookRequest
  deriving DecidableEq, Inhabited

/-- The JSON form of a call. -/
def CallRequest.toJson (r : CallRequest) : Json :=
  .obj [("method", .str r.method), ("vars", r.vars.toJson), ("task_id", .str r.taskId)]

/-- The call of a JSON form. -/
def CallRequest.ofJson? (v : Json) : Decoded CallRequest := do
  let r ← v.record ["method", "vars", "task_id"]
  return ⟨← Json.required r "method" Json.asText, ← Json.required r "vars" Vars.ofJson?,
    ← Json.optional r "task_id" "" Json.asText⟩

/-- The JSON form of a registration. -/
def SubscribeRequest.toJson (r : SubscribeRequest) : Json :=
  .obj [("webhook_url", .str r.webhookUrl), ("vars", r.vars.toJson)]

/-- The registration of a JSON form. -/
def SubscribeRequest.ofJson? (v : Json) : Decoded SubscribeRequest := do
  let r ← v.record ["webhook_url", "vars"]
  return ⟨← Json.required r "webhook_url" Json.asText, ← Json.required r "vars" Vars.ofJson?⟩

/-- The JSON form of a webhook request. -/
def WebhookRequest.toJson (r : WebhookRequest) : Json :=
  .obj [("method", .str r.method), ("headers", .ofTexts r.headers), ("body", .str r.body)]

/-- The webhook request of a JSON form. -/
def WebhookRequest.ofJson? (v : Json) : Decoded WebhookRequest := do
  let r ← v.record ["method", "headers", "body"]
  return ⟨← Json.required r "method" Json.asText,
    ← Json.optional r "headers" .empty (Json.asDict Json.asText),
    ← Json.optional r "body" "" Json.asText⟩

end TicketSync
