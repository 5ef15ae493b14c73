import TicketSync.Engine.Dialogue
import TicketSync.Store.Basic
import TicketSync.Script.Pool
import TicketSync.Tracker.Behaviour
import TicketSync.Vars.Evaluation

/-!
The surroundings of the engine: a store, trackers and a token, with a log of what the engine did to
them. Operations of the store can be made to fail. Everything but a tracker's reply is there at
once.
-/
namespace TicketSync.Engine

/-- An operation of the store, as a fault names it. -/
inductive StoreOperation where
  | createTicket
  | updateTicket
  | getTicket
  | createSubscription
  | updateSubscription
  | getSubscription
  | deleteSubscription
  | listSubscriptions
  deriving DecidableEq, Repr

/-- The word for an operation. -/
def StoreOperation.word : StoreOperation → String
  | createTicket => "create_ticket"
  | updateTicket => "update_ticket"
  | getTicket => "get_ticket"
  | createSubscription => "create_subscription"
  | updateSubscription => "update_subscription"
  | getSubscription => "get_subscription"
  | deleteSubscription => "delete_subscription"
  | listSubscriptions => "list_subscriptions"

/-- Something that the engine did. -/
inductive Event where
  | called (tracker : String) (r : CallRequest)
  | subscribed (tracker : String) (r : SubscribeRequest)
  | unsubscribed (tracker ref : String)
  | passed (tracker : String) (x : Subscription) (r : WebhookRequest)
  | wrote (op : StoreOperation) (id : String)
  | refused (op : StoreOperation)
  | received (x : Subscription) (r : WebhookRequest)
  | ignored
  | rejected (f : Failure)
  | handled (x : Subscription) (u : Update)

/-- What does not change in the surroundings: the functions of templates, the trackers, the ids for
new records by their number, and the time at which a subscription of a number is created. -/
structure Surroundings (τ : Type) where
  functions : Template.Functions
  trackers : Trackers τ
  ticketId : Nat → String
  subscriptionId : Nat → String
  createdAt : Nat → Instant

/-- What changes: the store, how many tickets and subscriptions were created, the operations that
fail, the trackers' state, the token and the log. -/
structure World (τ : Type) where
  store : Store
  tickets : Nat := 0
  subscriptions : Nat := 0
  faults : List String := []
  trackers : τ
  isCancelled : Bool := false
  log : List Event := []

namespace World

variable {τ α : Type}

/-- The world with one more event in the log. -/
def note (w : World τ) (e : Event) : World τ := { w with log := w.log ++ [e] }

/-- The failure of an operation that is made to fail. -/
def fault (op : StoreOperation) : Failure := .persistence ("injected: " ++ op.word)

/-- An operation of the store, unless it is made to fail. -/
def guarded (w : World τ) (op : StoreOperation) (run : World τ → Outcome α × World τ) :
    Outcome α × World τ :=
  if op.word ∈ w.faults then (.error (fault op), w.note (.refused op)) else run w

/-- The world after an operation that gives a new store, or leaves it on failure. -/
def keep (w : World τ) : Outcome Store → Outcome Unit × World τ
  | .ok store => (.ok (), { w with store })
  | .error f => (.error f, w)

/-- Creates a ticket. -/
def createTicket (e : Surroundings τ) (t : Ticket) (w : World τ) : Outcome String × World τ :=
  w.guarded .createTicket fun w =>
    match w.store.createTicket (e.ticketId (w.tickets + 1)) t with
    | .ok (id, store) =>
      (.ok id, { w with store, tickets := w.tickets + 1 }.note (.wrote .createTicket id))
    | .error f => (.error f, w)

/-- Creates a subscription. -/
def createSubscription (e : Surroundings τ) (x : Subscription) (w : World τ) :
    Outcome String × World τ :=
  w.guarded .createSubscription fun w =>
    match w.store.createSubscription (e.subscriptionId (w.subscriptions + 1)) x with
    | .ok (id, store) =>
      (.ok id, { w with store, subscriptions := w.subscriptions + 1 }.note
        (.wrote .createSubscription id))
    | .error f => (.error f, w)

/-- Updates a ticket. -/
def updateTicket (t : Ticket) (w : World τ) : Outcome Unit × World τ :=
  w.guarded .updateTicket fun w =>
    (w.note (.wrote .updateTicket t.id)).keep (w.store.updateTicket t)

/-- Updates a subscription. -/
def updateSubscription (x : Subscription) (w : World τ) : Outcome Unit × World τ :=
  w.guarded .updateSubscription fun w =>
    (w.note (.wrote .updateSubscription x.id)).keep (w.store.updateSubscription x)

/-- Deletes a subscription. -/
def deleteSubscription (id : String) (w : World τ) : Outcome Unit × World τ :=
  w.guarded .deleteSubscription fun w =>
    (w.note (.wrote .deleteSubscription id)).keep (w.store.deleteSubscription id)

/-- The answer of a tracker on its way. A reply that cancels a token cancels the token that it was
given. -/
def reply (r : Reply τ α × τ) (ownToken : Bool) (w : World τ) :
    Pending (World τ) (Outcome α) × World τ :=
  let finish (w : World τ) : Outcome α × World τ :=
    let (outcome, trackers) := r.1.settle w.trackers
    (outcome, { w with trackers, isCancelled := w.isCancelled || (ownToken && r.1.cancels) })
  ({ delay := r.1.delay, finish }, { w with trackers := r.2 })

/-- An answer that is there at once. -/
def atOnce {β : Type} (r : β × World τ) : Pending (World τ) β × World τ := (.now r.1, r.2)

/-- How the surroundings take the questions of the engine. A removal has a token of its own. -/
def handler (e : Surroundings τ) : Handler Engine (World τ)
  | .isCancelled, w => atOnce (w.isCancelled, w)
  | .now, w => atOnce (e.createdAt (w.subscriptions + 1), w)
  | .condition text u t, w => atOnce (evalCondition e.functions text u t, w)
  | .render vars u t, w => atOnce (vars.evaluate e.functions u t, w)
  | .findTicket q, w => atOnce (w.guarded .getTicket fun w => (w.store.getTicket q, w))
  | .createTicket t, w => atOnce (w.createTicket e t)
  | .updateTicket t, w => atOnce (w.updateTicket t)
  | .createSubscription x, w => atOnce (w.createSubscription e x)
  | .updateSubscription x, w => atOnce (w.updateSubscription x)
  | .findSubscription id, w =>
    atOnce (w.guarded .getSubscription fun w => (w.store.getSubscription id, w))
  | .deleteSubscription id, w => atOnce (w.deleteSubscription id)
  | .listSubscriptions tracker, w =>
    atOnce (w.guarded .listSubscriptions fun w => (w.store.listSubscriptions tracker, w))
  | .isRegistered tracker, w => atOnce (decide (tracker ∈ e.trackers.names), w)
  | .call tracker r, w =>
    (w.note (.called tracker r)).reply (e.trackers.call tracker r w.trackers) true
  | .subscribe tracker r, w =>
    (w.note (.subscribed tracker r)).reply (e.trackers.subscribe tracker r w.trackers) true
  | .unsubscribe tracker ref, w =>
    (w.note (.unsubscribed tracker ref)).reply (e.trackers.unsubscribe tracker ref w.trackers) false
  | .handleWebhook tracker x r, w =>
    (w.note (.passed tracker x r)).reply (e.trackers.handleWebhook tracker x r w.trackers) true

end World
end TicketSync.Engine
