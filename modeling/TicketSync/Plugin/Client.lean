import TicketSync.Plugin.Frame

/-!
One connection to a plugin that many calls share. A call takes the next number, enters the table of
those that wait, sends its request and waits; a reply goes to the call that waits under its number.
When the connection ends on either side, all that wait are told so, and no later call begins. A
caller may be gone at any moment; its entry then stays in the table until its reply or the end.
-/
namespace TicketSync.Plugin

/-- The most bytes that a line may have. -/
def maxFrame : Nat := 8 * 1024 * 1024

/-- Whether a line may be that long. -/
def fitsFrame (line : String) : Bool := line.utf8ByteSize ≤ maxFrame

/-- How far a call is: it has its number; it is in the table; its request is sent; it has its
outcome; or its caller is gone. -/
inductive CallStage where
  | numbered
  | registered
  | sent
  | settled (r : Outcome Json)
  | abandoned

/-- A call on a connection. What has come for it waits to be fetched by its caller. -/
structure ClientCall where
  method : String
  params : Json
  stage : CallStage := .numbered
  delivered : Option (Outcome Json) := none

/-- The outcome of a call that is settled. -/
def ClientCall.outcome? (c : ClientCall) : Option (Outcome Json) :=
  match c.stage with
  | .settled r => some r
  | _ => none

/-- Whether the caller of a call still waits for its outcome. -/
def ClientCall.isWaiting (c : ClientCall) : Bool :=
  match c.stage with
  | .numbered | .registered | .sent => true
  | .settled _ | .abandoned => false

/-- A connection: its calls, where the first has the number one; the numbers of those that are in
the table; the lines that were sent; and what has ended. -/
structure Client where
  calls : List ClientCall := []
  waiters : List Nat := []
  lines : List (List Char) := []
  readerEnded : Bool := false
  writerEnded : Bool := false

/-- Something that happens on a connection. -/
inductive ClientEvent where
  | begin (method : String) (params : Json)
  | register (id : Nat)
  | send (id : Nat)
  | receive (line : List Char)
  | endRead
  | endWrite
  | wake (id : Nat)
  | abandon (id : Nat)

namespace Client

/-- The call of a number. -/
def call? (c : Client) (id : Nat) : Option ClientCall :=
  if id = 0 then none else c.calls[id - 1]?

/-- The connection with the call of a number changed. -/
def update (c : Client) (id : Nat) (f : ClientCall → ClientCall) : Client :=
  if id = 0 then c else { c with calls := c.calls.modify (id - 1) f }

/-- Whether the connection has ended for new calls. -/
def closed (c : Client) : Bool := c.readerEnded || c.writerEnded

/-- The request of a call. -/
def request (id : Nat) (call : ClientCall) : Request := ⟨id, call.method, call.params⟩

/-- The connection after the call of a number has its outcome. -/
def settle (c : Client) (id : Nat) (r : Outcome Json) : Client :=
  c.update id fun call => { call with stage := .settled r }

/-- The connection after something has come for the call of a number. -/
def deliver (c : Client) (id : Nat) (r : Outcome Json) : Client :=
  c.update id fun call => { call with delivered := some r }

/-- The connection without the entry of a number. -/
def forget (c : Client) (id : Nat) : Client :=
  { c with waiters := c.waiters.erase id }

/-- The connection after all that wait were told that it has ended. -/
def shutDown (c : Client) : Client :=
  { c.waiters.foldl (fun c id => c.deliver id (.error .connectionLost)) c with waiters := [] }

/-- The connection after a reply. One for a number that nobody waits under is passed over. -/
def route (c : Client) (r : Response) : Client :=
  if r.id ∈ c.waiters then (c.forget r.id).deliver r.id r.outcome else c

/-- What happens to a connection. What cannot happen at a call's stage changes nothing. -/
def step (c : Client) : ClientEvent → Client
  | .begin method params => { c with calls := c.calls ++ [{ method, params }] }
  | .register id =>
    match c.call? id with
    | some { stage := .numbered, .. } =>
      if c.closed then c.settle id (.error .connectionLost)
      else { c.update id fun call => { call with stage := .registered } with
        waiters := id :: c.waiters }
    | _ => c
  | .send id =>
    match c.call? id with
    | some call@{ stage := .registered, .. } =>
      if c.writerEnded then (c.forget id).settle id (.error .connectionLost)
      else
        { c.update id fun call => { call with stage := .sent } with
          lines := c.lines ++ [(request id call).line] }
    | _ => c
  | .receive line =>
    if c.readerEnded then c
    else
      match readLine? Response.ofJson? line with
      | some r => c.route r
      | none => c
  | .endRead => { c with readerEnded := true }.shutDown
  | .endWrite => { c with writerEnded := true }.shutDown
  | .wake id =>
    match c.call? id with
    | some { stage := .sent, delivered := some r, .. } => c.settle id r
    | _ => c
  | .abandon id =>
    c.update id fun call => if call.isWaiting then { call with stage := .abandoned } else call

/-- A connection after events in order. -/
def run (c : Client) (events : List ClientEvent) : Client := events.foldl step c

/-- The events of a call from its beginning until it waits. -/
def callEvents (id : Nat) (method : String) (params : Json) : List ClientEvent :=
  [.begin method params, .register id, .send id]

/-- The outcome of the call of a number, once it has been fetched. -/
def outcome? (c : Client) (id : Nat) : Option (Outcome Json) :=
  ((c.step (.wake id)).call? id).bind ClientCall.outcome?

end Client
end TicketSync.Plugin
