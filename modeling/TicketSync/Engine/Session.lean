import TicketSync.Config.Basic
import TicketSync.Engine.Phase
import TicketSync.Engine.Webhook
import TicketSync.Engine.World

/-!
Sessions: the engine with a configuration and its surroundings, on a clock. Every operation of the
engine is a function of the session; what it did stands in the log, and the time that it took on
the clock.
-/
namespace TicketSync.Engine

/-- An engine at work. -/
structure Session (τ : Type) where
  config : Config
  surroundings : Surroundings τ
  runLimit : Option Nat := none
  world : World τ
  clock : Nat := 0
  phase : Phase := .idle

namespace Session

variable {τ α : Type}

/-- The address that the engine's webhooks are under. -/
def baseUrl (r : Session τ) : String := r.config.server.baseUrl

/-- Runs a script that never has to wait. -/
def perform (r : Session τ) (script : Script Engine α) : Outcome α × Session τ :=
  let (outcome, world) := script.run (World.handler r.surroundings).atOnce r.world
  (outcome, { r with world })

/-- Runs scripts together on the clock. -/
def gather (r : Session τ) (g : Gathering) (moments : Nat) (scripts : List (Script Engine α)) :
    Gathered Engine (World τ) α × Session τ :=
  let x := g.run (fun _ _ => World.handler r.surroundings) moments scripts r.clock r.world
  (x, { r with world := x.state, clock := x.now })

/-- Registers every trigger. -/
def register (r : Session τ) : Outcome Unit × Session τ :=
  let triggers := r.config.triggers
  let (x, r) := r.gather registrations triggers.length (triggers.map (Engine.register r.baseUrl))
  match x.failure? with
  | some f => (.error f, r)
  | none => (.ok (), r)

/-- Removes the subscriptions of a tracker, or all for the empty name, and counts them. -/
def remove (r : Session τ) (tracker : String) : Nat × Session τ :=
  match r.perform (listSubscriptions tracker) with
  | (.ok xs, r) =>
    let (x, r) := r.gather removals xs.length (xs.map Engine.remove)
    (removed x, r)
  | (.error _, r) => (0, r)

/-- Runs the jobs of a trigger for an update. -/
def dispatch (r : Session τ) (trigger : String) (u : Update) : Session τ :=
  let jobs := r.config.jobsOf trigger
  let moments := jobs.foldl (fun n j => n + sequenceCalls j.steps + 1) 0
  (r.gather (runs r.runLimit) moments (jobs.map fun j => runJob j u)).2

/-- Runs one job for an update, without a limit. -/
def execute (r : Session τ) (j : Job) (u : Update) : Outcome Ticket × Session τ :=
  let (x, r) := r.gather {} (sequenceCalls j.steps) [runJob j u]
  ((x.outcome? 0).getD (.error .cancelled), r)

/-- Adds to the log. -/
def note (r : Session τ) (e : Event) : Session τ := { r with world := r.world.note e }

/-- Has the tracker of a subscription read a request, and runs the jobs for the update. Requests
for a tracker that is not registered are dropped. -/
def deliver (r : Session τ) (x : Subscription) (w : WebhookRequest) : Session τ :=
  if x.trackerName ∈ r.surroundings.trackers.names then
    match r.perform (read x.trackerName x w) with
    | (.ok (some u), r) => r.dispatch x.triggerName u
    | (.ok none, r) => r.note .ignored
    | (.error f, r) => r.note (.rejected f)
  else r

/-- Receives a request at the webhook endpoint and handles it at once. -/
def receive (r : Session τ) (h : HttpRequest) : Reception × Session τ :=
  match r.perform (Engine.receive h) with
  | (.ok (.accepted x w), r) => (.accepted x w, (r.note (.received x w)).deliver x w)
  | (.ok reception, r) => (reception, r)
  | (.error f, r) => (.broken f, r)

/-- Lives through all phases, where listening ends in a given way. -/
def live (r : Session τ) (listened : Outcome Unit) : Outcome Unit × Session τ :=
  let (registered, r) := { r with phase := .registering }.register
  let outcome := match registered with
    | .ok _ => listened
    | .error f => .error f
  let (_, r) := { r with phase := .unregistering }.remove ""
  (conclude outcome, { r with phase := .stopped })

end Session
end TicketSync.Engine
