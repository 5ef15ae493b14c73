import TicketSync.Engine.Dialogue
import TicketSync.Flow.Job

/-!
Subscriptions in the engine: how they are created, linked to a tracker's reference, removed and
listed, and how a trigger is registered. A trigger's subscription is stored before its tracker is
asked, so the webhook's address holds the id, and linked once the tracker has answered.
-/
namespace TicketSync.Engine

/-- A new subscription, stored without a reference. -/
def openSubscription (baseUrl tracker trigger : String) : Script Engine Subscription := do
  let createdAt ← inquire .now
  let x : Subscription := { trackerName := tracker, triggerName := trigger, baseUrl, createdAt }
  let id ← .ofOutcome (← inquire (.createSubscription x))
  return { x with id }

/-- The subscription with an id. -/
def findSubscription (id : String) : Script Engine Subscription := do
  .ofOutcome (← inquire (.findSubscription id))

/-- Stores the reference that a tracker gave for a subscription. -/
def linkSubscription (id ref : String) : Script Engine Subscription := do
  let x ← findSubscription id
  let x := { x with trackerRef := some ref }
  Script.ofOutcome (← inquire (.updateSubscription x))
  return x

/-- Whether something is gone after its removal: it was removed, or was not there. -/
def isGone : Outcome Unit → Bool
  | .ok _ => true
  | .error f => f.isNotFound

/-- Removes a subscription from the store. One that is not there needs no removal. -/
def dropSubscription (id : String) : Script Engine Unit := do
  let r ← inquire (.deleteSubscription id)
  if isGone r then return () else .ofOutcome r

/-- The filter for a tracker's name, where the empty name stands for all trackers. -/
def trackerFilter (tracker : String) : Option String :=
  if tracker.isEmpty then none else some tracker

/-- The subscriptions of a tracker, or of all trackers for the empty name. -/
def listSubscriptions (tracker : String) : Script Engine (List Subscription) := do
  .ofOutcome (← inquire (.listSubscriptions (trackerFilter tracker)))

/-- Registers a trigger with its tracker. -/
def register (baseUrl : String) (t : Trigger) : Script Engine Unit := do
  requireTracker t.tracker
  let vars ← .ofOutcome (← inquire (.render t.vars {} {}))
  let x ← openSubscription baseUrl t.tracker t.name
  let ref ← .ofOutcome (← inquire (.subscribe t.tracker ⟨x.url, vars⟩))
  let _ ← linkSubscription x.id ref

/-- How long the removal of subscriptions may take, in milliseconds. -/
def removalLimit : Nat := 30000

/-- Removes a subscription from the store, and tells whether it is gone. -/
def discard (id : String) : Script Engine Bool := do
  return isGone (← inquire (.deleteSubscription id))

/-- Removes a subscription at its tracker and from the store, and tells whether it is gone. One
whose tracker has not confirmed that the webhook is gone stays stored. -/
def remove (x : Subscription) : Script Engine Bool :=
  match x.trackerRef with
  | none => discard x.id
  | some ref => do
    if ← inquire (.isRegistered x.trackerName) then
      if isGone (← inquire (.unsubscribe x.trackerName ref)) then discard x.id else return false
    else return false

end TicketSync.Engine
