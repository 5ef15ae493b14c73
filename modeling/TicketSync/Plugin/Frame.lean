import TicketSync.Failure
import TicketSync.Json.Printer
import TicketSync.Json.Reader
import TicketSync.Tracker.Request

/-!
Frames between the engine and a plugin, one JSON object on a line. A request has a number, a method
and parameters; its response has the same number and either a result or a fault. A method is the
name of a tracker and an operation with a point between them.
-/
namespace TicketSync.Plugin

/-! ### Methods -/

/-- The operation of running a tracker's method. -/
def callOperation : String := "Call"

/-- The operation of registering a webhook. -/
def subscribeOperation : String := "Subscribe"

/-- The operation of removing a webhook. -/
def unsubscribeOperation : String := "Unsubscribe"

/-- The operation of reading a webhook request. -/
def handleWebhookOperation : String := "HandleWebhook"

/-- A tracker and an operation with a point between them. -/
def joinMethod (tracker operation : String) : String := tracker ++ "." ++ operation

/-- The tracker and the operation on either side of the last point. Neither may be empty. -/
def splitMethod (method : String) : Option (String × String) :=
  let back := method.toList.reverse
  match back.dropWhile (· ≠ '.') with
  | [] => none
  | _ :: tracker =>
    let operation := back.takeWhile (· ≠ '.')
    if tracker.isEmpty || operation.isEmpty then none
    else some (String.ofList tracker.reverse, String.ofList operation.reverse)

/-! ### Faults -/

/-- The kind of a fault in a response. -/
inductive FaultCode where
  | notFound
  | alreadyExists
  | unsupportedMethod
  | actionNotSupported
  | unexpectedRemoteStatus
  | methodParseFailed
  | invalidParams
  | cancelled
  | internal
  deriving DecidableEq, Repr

/-- The word for a code. -/
def FaultCode.word : FaultCode → String
  | .notFound => "not_found"
  | .alreadyExists => "already_exists"
  | .unsupportedMethod => "unsupported_method"
  | .actionNotSupported => "action_not_supported"
  | .unexpectedRemoteStatus => "unexpected_remote_status"
  | .methodParseFailed => "method_parse_failed"
  | .invalidParams => "invalid_params"
  | .cancelled => "cancelled"
  | .internal => "internal"

/-- Every code. -/
def FaultCode.all : List FaultCode :=
  [.notFound, .alreadyExists, .unsupportedMethod, .actionNotSupported, .unexpectedRemoteStatus,
    .methodParseFailed, .invalidParams, .cancelled, .internal]

/-- The code of a word. -/
def FaultCode.ofWord? (word : String) : Option FaultCode :=
  FaultCode.all.find? (·.word = word)

/-- Why a request failed, as a response says it. -/
structure Fault where
  code : FaultCode
  message : String
  data : Option Json := none

/-- A failure as a response says it. The code keeps the kinds that the other side has a use for. -/
def Fault.ofFailure (f : Failure) : Fault :=
  match f with
  | .notFound _ key => ⟨.notFound, key, none⟩
  | .alreadyExists m => ⟨.alreadyExists, m, none⟩
  | .unsupportedMethod tracker method =>
    ⟨.unsupportedMethod, f.message,
      some (.obj [("method", .str method), ("tracker", .str tracker)])⟩
  | .actionNotSupported m => ⟨.actionNotSupported, m, none⟩
  | .unexpectedRemoteStatus m => ⟨.unexpectedRemoteStatus, m, none⟩
  | .malformedActionName m => ⟨.methodParseFailed, m, none⟩
  | .json m => ⟨.invalidParams, m, none⟩
  | .cancelled => ⟨.cancelled, f.message, none⟩
  | f => ⟨.internal, f.message, none⟩

/-- A text in the data of a fault, empty where there is none. -/
def Fault.dataText (f : Fault) (name : String) : String :=
  ((f.data.bind fun d => d.field? name).bind Json.str?).getD ""

/-- The failure that a fault stands for on the other side. -/
def Fault.toFailure (f : Fault) : Failure :=
  match f.code with
  | .notFound => .notFound "remote object" f.message
  | .alreadyExists => .alreadyExists f.message
  | .unsupportedMethod => .unsupportedMethod (f.dataText "tracker") (f.dataText "method")
  | .actionNotSupported => .actionNotSupported f.message
  | .unexpectedRemoteStatus => .unexpectedRemoteStatus f.message
  | .methodParseFailed => .malformedActionName f.message
  | .cancelled => .cancelled
  | .invalidParams | .internal => .transport ("plugin error: " ++ f.message)

/-! ### Frames -/

/-- A request. -/
structure Request where
  id : Nat
  method : String
  params : Json := .null

/-- A response to the request of the same number. -/
structure Response where
  id : Nat
  result : Option Json := none
  fault : Option Fault := none

/-- The parameters for removing a webhook. -/
structure UnsubscribeParams where
  trackerRef : String
  deriving DecidableEq

/-- The parameters for reading a webhook request. -/
structure WebhookParams where
  subscription : Subscription
  request : WebhookRequest
  deriving DecidableEq

namespace Response

/-- The response of a request that succeeded. -/
def success (id : Nat) (v : Json) : Response := { id, result := some v }

/-- The response of a request that failed. -/
def failure (id : Nat) (f : Failure) : Response := { id, fault := some (.ofFailure f) }

/-- The outcome that a response carries. A missing result is null. -/
def outcome (r : Response) : Outcome Json :=
  match r.fault with
  | some f => .error f.toFailure
  | none => .ok (r.result.getD .null)

end Response

/-! ### JSON forms -/

/-- The code of a JSON form: its word, or an object with the word and null. -/
def FaultCode.ofJson? : Json → Decoded FaultCode
  | .str s | .obj [(s, .null)] =>
    match FaultCode.ofWord? s with
    | some c => .ok c
    | none => .error .form
  | _ => .error .form

/-- Any value but null, in normal form. -/
def asPresent (v : Json) : Decoded (Option Json) := Json.asOption (fun v => .ok v.normal) v

/-- The JSON form of a fault. -/
def Fault.toJson (f : Fault) : Json :=
  .obj ([("code", .str f.code.word), ("message", .str f.message)] ++
    (f.data.map fun d => ("data", d)).toList)

/-- The fault of a JSON form. -/
def Fault.ofJson? (v : Json) : Decoded Fault := do
  let r ← v.record ["code", "message", "data"]
  return ⟨← Json.required r "code" FaultCode.ofJson?, ← Json.required r "message" Json.asText,
    ← Json.optional r "data" none asPresent⟩

/-- The JSON form of a request. -/
def Request.toJson (r : Request) : Json :=
  .obj [("id", .nat r.id), ("method", .str r.method), ("params", r.params)]

/-- The request of a JSON form. -/
def Request.ofJson? (v : Json) : Decoded Request := do
  let r ← v.record ["id", "method", "params"]
  return ⟨← Json.required r "id" (Json.asNat 64), ← Json.required r "method" Json.asText,
    ← Json.optional r "params" .null fun v => .ok v.normal⟩

/-- The JSON form of a response. -/
def Response.toJson (r : Response) : Json :=
  .obj ([("id", .nat r.id)] ++ (r.result.map fun v => ("result", v)).toList ++
    (r.fault.map fun f => ("error", f.toJson)).toList)

/-- The response of a JSON form. -/
def Response.ofJson? (v : Json) : Decoded Response := do
  let r ← v.record ["id", "result", "error"]
  return ⟨← Json.required r "id" (Json.asNat 64), ← Json.optional r "result" none asPresent,
    ← Json.optional r "error" none (Json.asOption Fault.ofJson?)⟩

/-- The JSON form of parameters for removing a webhook. -/
def UnsubscribeParams.toJson (p : UnsubscribeParams) : Json :=
  .obj [("tracker_ref", .str p.trackerRef)]

/-- The parameters for removing a webhook of a JSON form. -/
def UnsubscribeParams.ofJson? (v : Json) : Decoded UnsubscribeParams := do
  let r ← v.record ["tracker_ref"]
  return ⟨← Json.required r "tracker_ref" Json.asText⟩

/-- The JSON form of parameters for reading a webhook request. -/
def WebhookParams.toJson (p : WebhookParams) : Json :=
  .obj [("subscription", p.subscription.toJson), ("request", p.request.toJson)]

/-- The parameters for reading a webhook request of a JSON form. -/
def WebhookParams.ofJson? (v : Json) : Decoded WebhookParams := do
  let r ← v.record ["subscription", "request"]
  return ⟨← Json.required r "subscription" Subscription.ofJson?,
    ← Json.required r "request" WebhookRequest.ofJson?⟩

/-! ### Lines -/

/-- Lines as they are sent: a line feed ends each of them. -/
def joinLines (lines : List (List Char)) : List Char := lines.flatMap (· ++ ['\n'])

/-- A line without one carriage return at its end. -/
def dropReturn (line : List Char) : List Char :=
  if line.getLast? = some '\r' then line.dropLast else line

/-- The lines of a text that goes on after `held`. What comes after the last line feed is a line
too, unless nothing does or a carriage return alone. -/
def splitLinesFrom (held : List Char) : List Char → List (List Char)
  | [] => if held = [] ∨ held = ['\r'] then [] else [dropReturn held]
  | c :: rest =>
    if c = '\n' then dropReturn held :: splitLinesFrom [] rest
    else splitLinesFrom (held ++ [c]) rest

/-- The lines of a text as they are received. -/
def splitLines (text : List Char) : List (List Char) := splitLinesFrom [] text

/-- A value read from a line. -/
def readLine? {α : Type} (read : Json → Decoded α) (line : List Char) : Option α :=
  match (Json.readChars? line).map read with
  | some (.ok x) => some x
  | _ => none

/-- The line of a request. -/
def Request.line (r : Request) : List Char := r.toJson.print

/-- The line of a response. -/
def Response.line (r : Response) : List Char := r.toJson.print

end TicketSync.Plugin
