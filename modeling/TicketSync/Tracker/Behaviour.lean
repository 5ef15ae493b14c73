import TicketSync.Failure
import TicketSync.Tracker.Request

/-!
How trackers behave: what each answers, how long it takes, and what it does meanwhile to a state of
its own. The engine knows trackers by their names only.
-/
namespace TicketSync

/-- The reply of a tracker with a state: how many milliseconds it takes, where it may also never
come, whether the caller's token is cancelled when the time is over, and what it answers then. -/
structure Reply (τ α : Type) where
  delay : Option Nat := some 0
  cancels : Bool := false
  settle : τ → Outcome α × τ

/-- Trackers with a state, known by their names. -/
structure Trackers (τ : Type) where
  names : List String
  call : String → CallRequest → τ → Reply τ String × τ
  subscribe : String → SubscribeRequest → τ → Reply τ String × τ
  unsubscribe : String → String → τ → Reply τ Unit × τ
  handleWebhook : String → Subscription → WebhookRequest → τ → Reply τ (Option Update) × τ

end TicketSync
