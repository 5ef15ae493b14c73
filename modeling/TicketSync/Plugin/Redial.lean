import TicketSync.Json.Basic
import TicketSync.Script.Basic

/-!
A connection to a plugin that is dialled again when it is lost. Several callers share one
connection. A call is sent again only after the connection that it was sent on was lost before an
answer; any other answer is the answer of the call. Dialling goes on without the shared connection,
and where two callers dial at once the connection that was installed first is kept.
-/
namespace TicketSync.Plugin

/-- How often to try, where none counts as once, and how many milliseconds to wait in between. -/
structure RetryPolicy where
  attempts : Nat := 5
  delayMs : Nat := 500
  deriving DecidableEq, Repr, Inhabited

/-- How often a policy tries. -/
def RetryPolicy.budget (p : RetryPolicy) : Nat := max p.attempts 1

namespace Redial

/-- A question of a caller: the shared connection, a new connection, to install it and get the one
that is kept, to send a call, to drop a connection that was lost, and to wait before the next
attempt. A cancelled token ends a wait, a dial or a call as cancelled. -/
inductive Question (κ : Type) where
  | current
  | dial
  | install (c : κ)
  | send (c : κ) (method : String) (params : Json)
  | invalidate (c : κ)
  | pause

/-- The type of the answer to a question. -/
abbrev Question.Answer {κ : Type} : Question κ → Type
  | current => Option κ
  | dial => Outcome κ
  | install _ => κ
  | send .. => Outcome Json
  | invalidate _ => Unit
  | pause => Outcome Unit

end Redial

/-- The dialogue of callers that share a connection. -/
abbrev Redial (κ : Type) : Dialogue := ⟨Redial.Question κ, Redial.Question.Answer⟩

namespace Redial

variable {κ : Type}

/-- The shared connection after another one was installed: the first one is kept. -/
def keep (shared : Option κ) (c : κ) : κ := shared.getD c

/-- The shared connection after one was lost. Another one that is shared by then stays. -/
def drop [DecidableEq κ] (shared : Option κ) (lost : κ) : Option κ :=
  if shared = some lost then none else shared

/-- Asks a question of a caller. -/
def inquire (q : Question κ) : Script (Redial κ) q.Answer := Script.ask q Script.done

/-- Dials until a connection is there, with a pause between two attempts. A total of attempts in
vain fails, and the failure tells the last one. -/
def connectWithin (total : Nat) : Nat → Failure → Script (Redial κ) κ
  | 0, last =>
    .fail (.transport ("dial failed after " ++ toString total ++ " attempts: " ++ last.message))
  | n + 1, _ => do
    match ← inquire .dial with
    | .ok c => inquire (.install c)
    | .error f =>
      if n = 0 then connectWithin total n f
      else
        let _ ← inquire .pause
        connectWithin total n f

/-- The first connection, as patiently as a policy says. -/
def connect (p : RetryPolicy) : Script (Redial κ) κ :=
  connectWithin p.budget p.budget .connectionLost

/-- The shared connection, or a new one where there is none. -/
def obtain : Script (Redial κ) (Outcome κ) := do
  match ← inquire .current with
  | some c => return .ok c
  | none =>
    match ← inquire .dial with
    | .ok c => return .ok (← inquire (.install c))
    | .error f => return .error f

/-- Whether a call was not answered because its connection was lost. -/
def isLost : Outcome Json → Bool
  | .ok _ => false
  | .error f => f.isConnectionLost

/-- One attempt at a call: its outcome when the call is settled, or why to try again. -/
def attempt (method : String) (params : Json) : Script (Redial κ) (Except Failure (Outcome Json)) := do
  match ← obtain with
  | .error f => return if f.isCancelled then .ok (.error f) else .error f
  | .ok c =>
    let r ← inquire (.send c method params)
    if isLost r then
      inquire (.invalidate c)
      return .error .connectionLost
    else return .ok r

/-- Attempts at a call, so many after the first one failed. -/
def retryWithin (method : String) (params : Json) : Nat → Failure → Script (Redial κ) Json
  | 0, last => .fail last
  | n + 1, _ => do
    Script.ofOutcome (← inquire .pause)
    match ← attempt method params with
    | .ok r => .ofOutcome r
    | .error f => retryWithin method params n f

/-- A call, as patiently as a policy says. -/
def call (p : RetryPolicy) (method : String) (params : Json) : Script (Redial κ) Json := do
  match ← attempt method params with
  | .ok r => .ofOutcome r
  | .error f => retryWithin method params (p.budget - 1) f

end Redial
end TicketSync.Plugin
