import TicketSync.Engine.Dialogue
import TicketSync.Text.Percent

/-!
The webhook endpoint. A request to a path of one segment is resolved to the subscription with that
id; the subscription's tracker is to read it. Ids that nobody has are accepted and dropped, so a
tracker that reports to an old address is not told to try again. A body that is too large is refused
before anything is looked up.
-/
namespace TicketSync.Engine

/-- A request as the endpoint receives it. -/
structure HttpRequest where
  method : String
  target : String
  headers : List (String × String) := []
  body : List UInt8 := []

/-- The most bytes that the body of a request may have. -/
def bodyLimit : Nat := 2 * 1024 * 1024

/-- What a path stands for. -/
inductive Route where
  | unknown
  | wrongMethod
  | unreadable
  | hook (id : String)
  deriving DecidableEq, Repr

namespace HttpRequest

/-- The path of the target: what stands before the query and the fragment. -/
def path (r : HttpRequest) : List Char :=
  r.target.toList.takeWhile fun c => c ≠ '?' && c ≠ '#'

/-- Methods that the endpoint answers. -/
def isAccepted (r : HttpRequest) : Bool :=
  ["GET", "HEAD", "POST"].contains r.method

/-- What the request is for. The path has to be one segment that is not empty. -/
def route (r : HttpRequest) : Route :=
  match r.path with
  | '/' :: segment =>
    if segment.isEmpty || segment.contains '/' then .unknown
    else if !r.isAccepted then .wrongMethod
    else
      match Text.ofUtf8? (Text.percentDecode (Text.utf8 (String.ofList segment))) with
      | some id => .hook id
      | none => .unreadable
  | _ => .unknown

/-- Whether the body is too large to be read. -/
def isTooLarge (r : HttpRequest) : Bool := bodyLimit < r.body.length

/-- Whether the value of a header is text that is passed on. -/
def isPlain (value : String) : Bool :=
  value.toList.all fun c => c = '\t' || (' ' ≤ c && c ≤ '~')

/-- The headers that are passed on, with their names in small letters. Of two of one name the last
counts. -/
def plainHeaders (r : HttpRequest) : Dict String :=
  .ofList ((r.headers.filter fun h => isPlain h.2).map fun h => (h.1.toLower, h.2))

/-- The request as trackers get it. -/
def toWebhook (r : HttpRequest) : WebhookRequest :=
  ⟨r.method, r.plainHeaders, Text.ofUtf8 r.body⟩

end HttpRequest

/-- What becomes of a request. -/
inductive Reception where
  | unknownPath
  | wrongMethod
  | unreadablePath
  | tooLarge
  | dropped
  | broken (f : Failure)
  | accepted (x : Subscription) (r : WebhookRequest)

namespace Reception

/-- The status that answers a request. -/
def status : Reception → Nat
  | unknownPath => 404
  | wrongMethod => 405
  | unreadablePath => 400
  | tooLarge => 413
  | dropped | accepted .. => 200
  | broken _ => 500

/-- What the endpoint writes into the body of an answer. A request for the head alone gets none. -/
def body (r : HttpRequest) : Reception → String
  | broken f =>
    if r.method = "HEAD" then "" else (Json.obj [("error", .str f.message)]).toText
  | _ => ""

end Reception

/-- Receives a request: finds the subscription that it is addressed to, unless its body is too
large. -/
def receive (r : HttpRequest) : Script Engine Reception :=
  match r.route with
  | .unknown => return .unknownPath
  | .wrongMethod => return .wrongMethod
  | .unreadable => return .unreadablePath
  | .hook id =>
    if r.isTooLarge then return .tooLarge
    else do
      match ← inquire (.findSubscription id) with
      | .ok x => return .accepted x r.toWebhook
      | .error f => return if f.isNotFound then .dropped else .broken f

/-- Has a tracker read a request for a subscription. -/
def read (tracker : String) (x : Subscription) (r : WebhookRequest) :
    Script Engine (Option Update) := do
  .ofOutcome (← inquire (.handleWebhook tracker x r))

end TicketSync.Engine
