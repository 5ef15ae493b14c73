import TicketSync.Engine.Lane

/-!
Listening: every tracker has a lane, and the webhook endpoint hands each request to the lane of the
subscription's tracker. Lanes run at the same time and share the places for runs of jobs. The first
listener that fails has the token of all others cancelled; listening is over when every listener
has ended and its end has been seen.
-/
namespace TicketSync.Engine

/-- A request at the endpoint: it has arrived, waits for room in an inbox, or is answered. -/
inductive Visit where
  | arrived (r : HttpRequest)
  | resolved (x : Subscription) (r : WebhookRequest)
  | answered (r : Reception)

/-- Whether a request is answered. -/
def Visit.isAnswered : Visit → Bool
  | answered _ => true
  | _ => false

/-- What is remembered of the listening: a delivery came into an inbox, or was taken from it, and a
run of a job in a round of a lane began or ended. -/
inductive Mark where
  | enqueued (lane : Nat) (d : Delivery)
  | taken (lane : Nat) (d : Delivery)
  | began (lane round run : Nat)
  | ended (lane round run : Nat)
  deriving DecidableEq

/-- The listeners while they run, with the ends that have not been seen yet. -/
structure Listening (τ : Type) where
  lanes : List (Lane τ)
  visits : List Visit := []
  endpoint : Option (Outcome Unit) := none
  unseen : List (Outcome Unit) := []
  verdict : Verdict := {}
  marks : List Mark := []

/-- Something that happens while listeners run: a request arrives; a request, a reading tracker or a
run has a turn; a lane takes a delivery; a run gets a place, or its time is over; an update is
handled; a listener ends; the endpoint ends; a tracker cancels the token of the listeners; and the
end of a listener is seen. -/
inductive ListenerEvent where
  | arrive (r : HttpRequest)
  | visit (i : Nat)
  | take (lane : Nat)
  | read (lane : Nat)
  | start (lane run : Nat)
  | turn (lane run : Nat)
  | expire (lane run : Nat)
  | next (lane : Nat)
  | leave (lane : Nat) (r : Outcome Unit)
  | close (r : Outcome Unit)
  | revoke
  | see

namespace Listening

variable {τ : Type}

/-- The listeners of trackers at the beginning. -/
def begin (names : List String) (ownWay : String → Bool) : Listening τ :=
  { lanes := names.map fun tracker => { tracker, ownWay := ownWay tracker } }

/-- How many runs have a place. -/
def active (x : Listening τ) : Nat := x.lanes.foldr (fun l n => l.active + n) 0

/-- Whether no request can come into an inbox any more. -/
def isShut (x : Listening τ) : Bool := x.endpoint.isSome && x.visits.all Visit.isAnswered

/-- Whether every listener has ended and been seen. -/
def isOver (x : Listening τ) : Bool :=
  x.endpoint.isSome && x.lanes.all Lane.hasEnded && x.unseen.isEmpty

/-- The listeners with the lane at an index changed. -/
def modify (x : Listening τ) (i : Nat) (f : Lane τ → Lane τ) : Listening τ :=
  { x with lanes := x.lanes.modify i f }

/-- The listeners with one more mark. -/
def mark (x : Listening τ) (m : Mark) : Listening τ := { x with marks := x.marks ++ [m] }

/-- The listeners after a request is answered. -/
def answer (x : Listening τ) (i : Nat) (r : Reception) : Listening τ :=
  { x with visits := x.visits.set i (.answered r) }

/-- The listeners after a request for a subscription had a turn. It comes into the inbox of the
subscription's tracker when there is room; without a listener it is dropped. -/
def pass (x : Listening τ) (i : Nat) (d : Delivery) : Listening τ :=
  let accepted := Reception.accepted d.subscription d.request
  match x.lanes.findIdx? fun l => l.tracker = d.subscription.trackerName with
  | none => x.answer i accepted
  | some k =>
    match x.lanes[k]? with
    | none => x.answer i accepted
    | some l =>
      if l.hasEnded then x.answer i accepted
      else if l.hasRoom then ((x.modify k (·.enqueue d)).answer i accepted).mark (.enqueued k d)
      else x

/-- The listeners after the request at an index had a turn. -/
def visit (s : Session τ) (x : Listening τ) (i : Nat) : Listening τ × Session τ :=
  match x.visits[i]? with
  | some (.arrived h) =>
    match s.perform (receive h) with
    | (.ok (.accepted y w), s) => ({ x with visits := x.visits.set i (.resolved y w) }, s)
    | (.ok r, s) => (x.answer i r, s)
    | (.error f, s) => (x.answer i (.broken f), s)
  | some (.resolved y w) => (x.pass i ⟨y, w⟩, s)
  | _ => (x, s)

/-- The listeners after a lane may have taken a delivery. -/
def take (x : Listening τ) (i : Nat) : Listening τ :=
  match x.lanes[i]? with
  | some l =>
    match l.take.stage, l.isWaiting with
    | .reading d _, true => { x with lanes := x.lanes.set i l.take }.mark (.taken i d)
    | _, _ => x
  | none => x

/-- The listeners after a tracker that reads had a turn. -/
def read (s : Session τ) (x : Listening τ) (i : Nat) : Listening τ × Session τ :=
  match x.lanes[i]? with
  | some l =>
    let (l, s) := l.turn s
    ({ x with lanes := x.lanes.set i l }, s)
  | none => (x, s)

/-- The run at an index of the lane at an index. -/
def run? (x : Listening τ) (i j : Nat) : Option (Lane τ × JobRun τ) := do
  let l ← x.lanes[i]?
  let r ← l.runs[j]?
  return (l, r)

/-- The listeners with a run changed. -/
def modifyRun (x : Listening τ) (i j : Nat) (r : JobRun τ) : Listening τ :=
  x.modify i fun l => l.modifyRun j fun _ => r

/-- The listeners after a run that waits for a place may have got one. -/
def start (x : Listening τ) (i j : Nat) : Listening τ :=
  match x.run? i j with
  | some (l, r@{ stage := .queued, .. }) =>
    if x.active < runWidth then (x.modifyRun i j r.start).mark (.began i l.round j) else x
  | _ => x

/-- The listeners after a run went on to what it is now. Its end is remembered. -/
def advance (x : Listening τ) (i j round : Nat) (before after : JobRun τ) : Listening τ :=
  let x := x.modifyRun i j after
  if before.isActive && after.hasEnded then x.mark (.ended i round j) else x

/-- The listeners after a run had a turn. -/
def turn (s : Session τ) (x : Listening τ) (i j : Nat) : Listening τ × Session τ :=
  match x.run? i j with
  | some (l, r) =>
    let (after, s) := r.turn s
    (x.advance i j l.round r after, s)
  | none => (x, s)

/-- The listeners after the time of a run is over. -/
def expire (limit : Option Nat) (x : Listening τ) (i j : Nat) : Listening τ :=
  match limit, x.run? i j with
  | some limit, some (l, r) => x.advance i j l.round r (r.expire limit)
  | _, _ => x

/-- Whether a listener has ended as cancelled. -/
def wasCancelled : Outcome Unit → Bool
  | .ok _ => false
  | .error f => f.isCancelled

/-- Whether a listener can end as it is said to. A tracker with a way of its own may end at any
time and in any way. Any other one ends only as cancelled, while it waits and either the token is
cancelled or nothing can come into its empty inbox. -/
def canLeave (isCancelled : Bool) (x : Listening τ) (l : Lane τ) (r : Outcome Unit) : Bool :=
  l.isWaiting &&
    (l.ownWay || (wasCancelled r && (isCancelled || (x.isShut && l.inbox.isEmpty))))

/-- The listeners after one of them may have ended. -/
def leave (isCancelled : Bool) (x : Listening τ) (i : Nat) (r : Outcome Unit) : Listening τ :=
  match x.lanes[i]? with
  | some l =>
    if x.canLeave isCancelled l r then
      { x.modify i (·.leave r) with unseen := x.unseen ++ [r] }
    else x
  | none => x

/-- Whether the endpoint can end as it is said to. It ends well only after the token is cancelled,
with all requests answered. -/
def canClose (isCancelled : Bool) (x : Listening τ) (r : Outcome Unit) : Bool :=
  x.endpoint.isNone &&
    match r with
    | .ok _ => isCancelled && x.visits.all Visit.isAnswered
    | .error _ => true

/-- The listeners after the endpoint may have ended. -/
def close (isCancelled : Bool) (x : Listening τ) (r : Outcome Unit) : Listening τ :=
  if x.canClose isCancelled r then { x with endpoint := some r, unseen := x.unseen ++ [r] } else x

/-- The listeners after the end of one was seen, and whether the token is cancelled because of
it. -/
def see (x : Listening τ) : Listening τ × Bool :=
  match x.unseen with
  | r :: unseen =>
    let verdict := x.verdict.see r
    ({ x with unseen, verdict }, verdict.cancels && !x.verdict.cancels)
  | [] => (x, false)

end Listening

/-- The session with the token of its listeners cancelled, if so. -/
def Session.revoke {τ : Type} (s : Session τ) (cancels : Bool) : Session τ :=
  { s with world := { s.world with isCancelled := s.world.isCancelled || cancels } }

namespace Listening

variable {τ : Type}

/-- What happens to the listeners and their session. What cannot happen changes nothing. -/
def step (x : Listening τ) (s : Session τ) : ListenerEvent → Listening τ × Session τ
  | .arrive r =>
    (if x.endpoint.isNone then { x with visits := x.visits ++ [.arrived r] } else x, s)
  | .visit i => x.visit s i
  | .take i => (x.take i, s)
  | .read i => x.read s i
  | .start i j => (x.start i j, s)
  | .turn i j => x.turn s i j
  | .expire i j => (x.expire s.runLimit i j, s)
  | .next i => (x.modify i Lane.next, s)
  | .leave i r => (x.leave s.world.isCancelled i r, s)
  | .close r => (x.close s.world.isCancelled r, s)
  | .revoke => (x, s.revoke true)
  | .see =>
    let (x, cancels) := x.see
    (x, s.revoke cancels)

/-- The listeners and their session after events in order. -/
def run (x : Listening τ × Session τ) (events : List ListenerEvent) : Listening τ × Session τ :=
  events.foldl (fun x e => x.1.step x.2 e) x

/-- The outcome of listening, once it is over. -/
def outcome? (x : Listening τ) : Option (Outcome Unit) :=
  if x.isOver then some x.verdict.outcome else none

end Listening
end TicketSync.Engine
