import TicketSync.Engine.Dialogue
import TicketSync.Flow.Job

/-!
A run of a job for an update: the ticket that the update belongs to is looked up, takes over what
the update says, goes through the steps of the job and is stored once at the end. A failure
anywhere ends the run before anything is stored.
-/
namespace TicketSync

/-- The ticket after a call for it was answered with a task id. An empty id and the id of a
detached call leave no trace. -/
def Action.link (a : Action) (t : Ticket) (id : String) : Ticket :=
  if a.detached || id.isEmpty then t else t.setTaskId a.name.tracker id

/-- The request of an action for a ticket. -/
def Action.request (a : Action) (vars : Vars) (t : Ticket) : CallRequest :=
  ⟨a.name.method, vars, if a.detached then "" else t.taskId a.name.tracker⟩

namespace Engine

/-- The ticket that a locator belongs to, or a new one. -/
def resolve (source : Locator) : Script Engine Ticket := do
  match ← inquire (.findTicket (.locator source)) with
  | .ok t => return t
  | .error f => if f.isNotFound then return {} else .fail f

/-- An action for an update: the ticket after it. -/
def runAction (u : Update) (a : Action) (t : Ticket) : Script Engine Ticket := do
  let vars ← .ofOutcome (← inquire (.render a.vars u t))
  requireTracker a.name.tracker
  let id ← .ofOutcome (← inquire (.call a.name.tracker (a.request vars t)))
  return a.link t id

mutual
/-- A step for an update: the ticket after it. -/
def runStep (u : Update) : Step → Ticket → Script Engine Ticket
  | .action a, t => runAction u a t
  | .branch condition steps, t => do
    if ← .ofOutcome (← inquire (.condition condition u t)) then runSteps u steps t else return t

/-- Steps one after the other. Each begins only while the token is not cancelled. -/
def runSteps (u : Update) : List Step → Ticket → Script Engine Ticket
  | [], t => return t
  | s :: rest, t => do
    checkpoint
    runSteps u rest (← runStep u s t)
end

/-- Stores a ticket, and ends with it as it is stored. -/
def save (t : Ticket) : Script Engine Ticket := do
  if t.isPersisted then
    Script.ofOutcome (← inquire (.updateTicket t))
    return t
  else
    let id ← .ofOutcome (← inquire (.createTicket t))
    return { t with id }

/-- Runs a job for an update: the ticket as it is stored at the end. -/
def runJob (j : Job) (u : Update) : Script Engine Ticket := do
  let t ← resolve u.receivedFrom
  let t ← runSteps u j.steps (t.patch u)
  checkpoint
  save t

mutual
/-- How many calls a step makes at most. -/
def stepCalls : Step → Nat
  | .action _ => 1
  | .branch _ steps => sequenceCalls steps

/-- How many calls steps make at most. -/
def sequenceCalls : List Step → Nat
  | [] => 0
  | s :: rest => stepCalls s + sequenceCalls rest
end

end Engine
end TicketSync
