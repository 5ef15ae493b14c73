import TicketSync.Engine.Registration
import TicketSync.Engine.Run
import TicketSync.Script.Clock

/-!
The phases of a session, what counts as its outcome, and how many scripts run together in each
phase. Triggers are registered, listeners run until they are cancelled or one of them fails, and
every subscription is removed again, also after a failure.
-/
namespace TicketSync.Engine

/-- Where a session is in its life. -/
inductive Phase where
  | idle
  | registering
  | listening
  | unregistering
  | stopped
  deriving DecidableEq, Repr, Inhabited

/-- The word for a phase. -/
def Phase.word : Phase → String
  | idle => "idle"
  | registering => "registering_triggers"
  | listening => "listening"
  | unregistering => "unregistering_triggers"
  | stopped => "stopped"

/-- The phases of a session after its beginning, for the outcome of the registration. -/
def phases (registered : Outcome Unit) : List Phase :=
  match registered with
  | .ok _ => [.registering, .listening, .unregistering, .stopped]
  | .error _ => [.registering, .unregistering, .stopped]

/-- What has been seen of the listeners that have ended: the first failure other than a
cancellation. Seeing it is what cancels the others. -/
structure Verdict where
  failure : Option Failure := none
  deriving DecidableEq, Inhabited

namespace Verdict

/-- The verdict after one more listener has ended. -/
def see (v : Verdict) (r : Outcome Unit) : Verdict :=
  match v.failure, r with
  | none, .error f => if f.isCancelled then v else ⟨some f⟩
  | _, _ => v

/-- Whether the listeners that still run have been cancelled because of a failure. -/
def cancels (v : Verdict) : Bool := v.failure.isSome

/-- The outcome of listening once all listeners have ended. -/
def outcome (v : Verdict) : Outcome Unit := .error (v.failure.getD .cancelled)

/-- The verdict on listeners in the order of their ends. -/
def ofEnds (ends : List (Outcome Unit)) : Verdict := ends.foldl see {}

end Verdict

/-- The outcome of a session: a cancellation is how a session is meant to end. -/
def conclude : Outcome Unit → Outcome Unit
  | .error f => if f.isCancelled then .ok () else .error f
  | .ok _ => .ok ()

/-- How many runs of jobs may be under way at once. -/
def runWidth : Nat := 16

/-- Registrations begin together, and the first failure abandons those under way. -/
def registrations : Gathering := { stopsAtFailure := true }

/-- Removals begin together and have a limit in common. -/
def removals : Gathering := { limit := some removalLimit }

/-- Runs for an update are bounded in number, and each in time. -/
def runs (limit : Option Nat) : Gathering := { width := some runWidth, eachLimit := limit }

/-- The number of subscriptions that removals report as gone. When the limit ends first, none is
reported. -/
def removed {D : Dialogue} {σ : Type} (x : Gathered D σ Bool) : Nat :=
  if x.timedOut then 0
  else (x.outcomes.filter fun e => match e.2 with | .ok b => b | .error _ => false).length

end TicketSync.Engine
