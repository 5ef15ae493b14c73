import TicketSync.Engine.Inbox
import TicketSync.Engine.Session

/-!
Lanes: one tracker while its listener runs, with its inbox and the runs of jobs for the update that
it handles. A lane takes a delivery only after all runs for the one before have ended. A tracker
that listens in a way of its own takes nothing from its inbox.
-/
namespace TicketSync.Engine

/-- How far the run of a job is: it waits for a place, is under way, or has ended. -/
inductive RunStage (τ : Type) where
  | queued
  | active (task : Task Engine (World τ) Ticket)
  | ended (r : Outcome Ticket)

/-- The run of a job for an update. -/
structure JobRun (τ : Type) where
  job : Job
  update : Update
  stage : RunStage τ := .queued

namespace JobRun

variable {τ : Type}

/-- Whether a run has a place. -/
def isActive (r : JobRun τ) : Bool :=
  match r.stage with
  | .active _ => true
  | _ => false

/-- Whether a run has ended. -/
def hasEnded (r : JobRun τ) : Bool :=
  match r.stage with
  | .ended _ => true
  | _ => false

/-- The run with a place. -/
def start (r : JobRun τ) : JobRun τ :=
  { r with stage := .active (.ready (runJob r.job r.update)) }

/-- The run after a turn. One that has come to its end gives its place back. -/
def turn (s : Session τ) (r : JobRun τ) : JobRun τ × Session τ :=
  match r.stage with
  | .active task =>
    match task.outcome? with
    | some outcome => ({ r with stage := .ended outcome }, s)
    | none =>
      let (task, world) := task.step (World.handler s.surroundings) s.world
      ({ r with stage := .active task }, { s with world })
  | _ => (r, s)

/-- The run when its time is over. One that has come to its end just then keeps its outcome. -/
def expire (limit : Nat) (r : JobRun τ) : JobRun τ :=
  match r.stage with
  | .active task => { r with stage := .ended (task.outcome?.getD (.error (.timeout limit))) }
  | _ => r

end JobRun

/-- What a lane does. -/
inductive LaneStage (τ : Type) where
  | waiting
  | reading (d : Delivery) (task : Task Engine (World τ) (Option Update))
  | running (d : Delivery) (runs : List (JobRun τ))
  | ended (r : Outcome Unit)

/-- A tracker while its listener runs, with the number of updates that were handled before. -/
structure Lane (τ : Type) where
  tracker : String
  ownWay : Bool := false
  inbox : List Delivery := []
  stage : LaneStage τ := .waiting
  round : Nat := 0

namespace Lane

variable {τ : Type}

/-- How many deliveries an inbox holds. -/
def capacity : Nat := 64

/-- Whether the listener has ended. -/
def hasEnded (l : Lane τ) : Bool :=
  match l.stage with
  | .ended _ => true
  | _ => false

/-- Whether the listener waits for a delivery. -/
def isWaiting (l : Lane τ) : Bool :=
  match l.stage with
  | .waiting => true
  | _ => false

/-- Whether there is room in the inbox. -/
def hasRoom (l : Lane τ) : Bool := l.inbox.length < capacity

/-- The runs for the update that is handled. -/
def runs (l : Lane τ) : List (JobRun τ) :=
  match l.stage with
  | .running _ runs => runs
  | _ => []

/-- How many runs have a place. -/
def active (l : Lane τ) : Nat := l.runs.countP JobRun.isActive

/-- The lane with a delivery at the end of its inbox. -/
def enqueue (l : Lane τ) (d : Delivery) : Lane τ := { l with inbox := l.inbox ++ [d] }

/-- The lane after it has taken a delivery, which the tracker then reads. -/
def take (l : Lane τ) : Lane τ :=
  match l.stage, l.inbox with
  | .waiting, d :: inbox =>
    if l.ownWay then l
    else { l with inbox, stage := .reading d (.ready (read l.tracker d.subscription d.request)) }
  | _, _ => l

/-- The lane after a turn of the tracker that reads. What was read as an update has the jobs of the
subscription's trigger run for it. -/
def turn (s : Session τ) (l : Lane τ) : Lane τ × Session τ :=
  match l.stage with
  | .reading d task =>
    match task.outcome? with
    | some outcome =>
      match Inbox.toHandle outcome with
      | some update =>
        let runs := (s.config.jobsOf d.subscription.triggerName).map fun job => { job, update }
        ({ l with stage := .running d runs }, s)
      | none => ({ l with stage := .waiting }, s)
    | none =>
      let (task, world) := task.step (World.handler s.surroundings) s.world
      ({ l with stage := .reading d task }, { s with world })
  | _ => (l, s)

/-- The lane with the run at an index changed. -/
def modifyRun (l : Lane τ) (j : Nat) (f : JobRun τ → JobRun τ) : Lane τ :=
  match l.stage with
  | .running d runs => { l with stage := .running d (runs.modify j f) }
  | _ => l

/-- The lane after all its runs have ended: the update is handled. -/
def next (l : Lane τ) : Lane τ :=
  match l.stage with
  | .running _ runs =>
    if runs.all JobRun.hasEnded then { l with stage := .waiting, round := l.round + 1 } else l
  | _ => l

/-- The lane after the end of its listener. -/
def leave (l : Lane τ) (r : Outcome Unit) : Lane τ := { l with stage := .ended r }

end Lane
end TicketSync.Engine
