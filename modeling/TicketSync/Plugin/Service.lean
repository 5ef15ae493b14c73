import TicketSync.Plugin.Frame
import TicketSync.Script.Pool

/-!
The plugin's side of a connection. Each request is dispatched to the tracker that is served, if its
method names that tracker and one of the four operations. Requests are worked on at the same time,
and a writer answers them in the order in which they end. A line that is no request is passed over.
-/
namespace TicketSync.Plugin

namespace Service

/-- A question to the tracker that is served. -/
inductive Question where
  | call (r : CallRequest)
  | subscribe (r : SubscribeRequest)
  | unsubscribe (ref : String)
  | handleWebhook (x : Subscription) (r : WebhookRequest)
  deriving DecidableEq

/-- The type of the answer to a question. -/
abbrev Question.Answer : Question → Type
  | call _ => Outcome String
  | subscribe _ => Outcome String
  | unsubscribe _ => Outcome Unit
  | handleWebhook .. => Outcome (Option Update)

end Service

/-- The dialogue with the tracker that is served. -/
abbrev Service : Dialogue := ⟨Service.Question, Service.Question.Answer⟩

namespace Service

/-- Asks the tracker that is served. -/
def inquire (q : Question) : Script Service q.Answer := Script.ask q Script.done

/-- The parameters of a request, which have to have the form asked for. -/
def readParams {α : Type} (read : Json → Decoded α) (v : Json) : Script Service α :=
  match read v with
  | .ok x => .done x
  | .error _ => .fail (.json "the parameters have not the form asked for")

/-- The result of reading a webhook, where null stands for nothing to react to. -/
def updateResult : Option Update → Json
  | some u => u.toJson
  | none => .null

/-- Performs an operation of the tracker that is served. -/
def operate (name operation : String) (params : Json) : Script Service Json :=
  if operation = callOperation then do
    let r ← readParams CallRequest.ofJson? params
    let id ← .ofOutcome (← inquire (.call r))
    return .str id
  else if operation = subscribeOperation then do
    let r ← readParams SubscribeRequest.ofJson? params
    let ref ← .ofOutcome (← inquire (.subscribe r))
    return .str ref
  else if operation = unsubscribeOperation then do
    let p ← readParams UnsubscribeParams.ofJson? params
    Script.ofOutcome (← inquire (.unsubscribe p.trackerRef))
    return .null
  else if operation = handleWebhookOperation then do
    let p ← readParams WebhookParams.ofJson? params
    let u ← .ofOutcome (← inquire (.handleWebhook p.subscription p.request))
    return updateResult u
  else .fail (.unsupportedMethod name operation)

/-- Performs a request for the tracker that is served under a name. -/
def dispatch (name method : String) (params : Json) : Script Service Json :=
  match splitMethod method with
  | none => .fail (.malformedActionName method)
  | some (tracker, operation) =>
    if tracker = name then operate name operation params
    else .fail (.unsupportedMethod tracker operation)

/-- The response to a request for its outcome. -/
def respond (id : Nat) : Outcome Json → Response
  | .ok v => .success id v
  | .error f => .failure id f

/-- The requests on a line: one, or none. -/
def request? (line : List Char) : Option Request := readLine? Request.ofJson? line

/-- The most responses that wait for the writer. -/
def capacity : Nat := 64

/-- A connection from the plugin's side: whether it is still read, the requests that are worked on,
the responses that wait for the writer, those that it has written, and whether all has ended. -/
structure Connection (σ : Type) where
  reading : Bool := true
  working : List (Request × Task Service σ Json) := []
  queue : List Response := []
  written : List Response := []
  ended : Bool := false

/-- Something that happens on a connection: a line has come; reading ends, with the stream, by a
cancellation or at a line that is no text; a request has a turn; the writer has one; or the state of
the tracker changes by itself. -/
inductive Event (σ : Type) where
  | line (text : List Char)
  | stop
  | turn (i : Nat)
  | write
  | meanwhile (s : σ)

namespace Connection

variable {σ : Type}

/-- The connection after a line was read. -/
def accept (name : String) (c : Connection σ) (text : List Char) : Connection σ :=
  match request? text with
  | some r => { c with working := c.working ++ [(r, .ready (dispatch name r.method r.params))] }
  | none => c

/-- The connection after the request at an index had a turn. One that has ended hands its response
to the writer as soon as there is room. -/
def turn (h : Handler Service σ) (c : Connection σ) (s : σ) (i : Nat) : Connection σ × σ :=
  match c.working[i]? with
  | none => (c, s)
  | some (r, task) =>
    match task.outcome? with
    | some o =>
      if c.queue.length < capacity then
        ({ c with working := c.working.eraseIdx i, queue := c.queue ++ [respond r.id o] }, s)
      else (c, s)
    | none =>
      let (task, s) := task.step h s
      ({ c with working := c.working.set i (r, task) }, s)

/-- The connection after a turn of the writer. It ends when no response is left and none can come. -/
def write (c : Connection σ) : Connection σ :=
  match c.queue with
  | x :: rest => { c with queue := rest, written := c.written ++ [x] }
  | [] => if c.reading || !c.working.isEmpty then c else { c with ended := true }

/-- What happens on a connection, and to the state of the tracker. -/
def step (name : String) (h : Handler Service σ) (x : Connection σ × σ) :
    Event σ → Connection σ × σ
  | .line text => (if x.1.reading then x.1.accept name text else x.1, x.2)
  | .stop => ({ x.1 with reading := false }, x.2)
  | .turn i => x.1.turn h x.2 i
  | .write => (x.1.write, x.2)
  | .meanwhile s => (x.1, s)

/-- A connection after events in order. -/
def run (name : String) (h : Handler Service σ) (x : Connection σ × σ) (events : List (Event σ)) :
    Connection σ × σ :=
  events.foldl (step name h) x

end Connection
end Service
end TicketSync.Plugin
