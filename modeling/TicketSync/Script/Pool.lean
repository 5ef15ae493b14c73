import TicketSync.Script.Basic

/-!
Scripts that run at the same time over one state. Each has its turns in any order; one turn asks
one question, or brings the answer to a question that was asked before. Nothing else happens in
between, so a question that is answered at once is one step.
-/
namespace TicketSync

/-- An answer on its way: how many milliseconds it takes, where it may also never come, and what it
is and does when it comes. -/
structure Pending (σ α : Type) where
  delay : Option Nat := some 0
  finish : σ → α × σ

/-- The answer that is there at once and changes nothing. -/
def Pending.now {σ α : Type} (x : α) : Pending σ α := { finish := fun s => (x, s) }

/-- Surroundings with a state that take questions and answer them in their own time. -/
abbrev Handler (D : Dialogue) (σ : Type) :=
  (q : D.Question) → σ → Pending σ (D.Answer q) × σ

/-- The same surroundings when every answer comes at once. -/
def Handler.atOnce {D : Dialogue} {σ : Type} (h : Handler D σ) : Responder D σ := fun q s =>
  let (p, s) := h q s
  p.finish s

/-- A script on its way. -/
inductive Task (D : Dialogue) (σ α : Type) where
  | ready (script : Script D α)
  | waiting (q : D.Question) (answer : Pending σ (D.Answer q)) (next : D.Answer q → Script D α)

namespace Task

variable {D : Dialogue} {σ α : Type}

/-- Whether a task has ended, and how. -/
def outcome? : Task D σ α → Option (Outcome α)
  | ready (.done x) => some (.ok x)
  | ready (.fail f) => some (.error f)
  | _ => none

/-- One turn of a task. An answer that takes no time belongs to the turn that asks for it. -/
def step (h : Handler D σ) (t : Task D σ α) (s : σ) : Task D σ α × σ :=
  match t with
  | ready (.ask q next) =>
    let (p, s) := h q s
    if p.delay = some 0 then
      let (a, s) := p.finish s
      (ready (next a), s)
    else (waiting q p next, s)
  | waiting _ p next =>
    let (a, s) := p.finish s
    (ready (next a), s)
  | t => (t, s)

end Task

/-- Scripts that run at the same time. -/
abbrev Pool (D : Dialogue) (σ α : Type) := List (Task D σ α)

namespace Pool

variable {D : Dialogue} {σ α : Type}

/-- A turn of the task at an index. -/
def step (h : Handler D σ) (p : Pool D σ α) (s : σ) (i : Nat) : Pool D σ α × σ :=
  match p[i]? with
  | some t =>
    let (t, s) := t.step h s
    (p.set i t, s)
  | none => (p, s)

/-- Turns in the order of a schedule. -/
def run (h : Handler D σ) (p : Pool D σ α) (s : σ) : List Nat → Pool D σ α × σ
  | [] => (p, s)
  | i :: rest =>
    let (p, s) := p.step h s i
    run h p s rest

/-- Whether every task has ended. -/
def ended (p : Pool D σ α) : Bool := p.all fun t => t.outcome?.isSome

/-- The first failure among tasks that have ended. -/
def failure? (p : Pool D σ α) : Option Failure :=
  p.findSome? fun t =>
    match t.outcome? with
    | some (.error f) => some f
    | _ => none

/-- How many tasks have ended with yes. -/
def confirmed (p : Pool D σ Bool) : Nat :=
  p.countP fun t =>
    match t.outcome? with
    | some (.ok true) => true
    | _ => false

end Pool
end TicketSync
