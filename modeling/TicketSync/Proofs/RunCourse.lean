import TicketSync.Engine.Run
import TicketSync.Engine.World

/-! # A run of a job, turn by turn

A course is a run of a job with its surroundings and the exchanges that it has had so far. Between
its turns the token may be cancelled and trackers may go on by themselves, but nobody else writes to
the store. A run that is given up is a course that gets no more turns. -/
namespace TicketSync

/-- The exchange that a turn of a task completes, if it completes one. -/
def Task.exchange? {D : Dialogue} {σ α : Type} (h : Handler D σ) (t : Task D σ α) (s : σ) :
    Option (Exchange D) :=
  match t with
  | .ready (.ask q _) =>
    let (p, s) := h q s
    if p.delay = some 0 then some ⟨q, (p.finish s).1⟩ else none
  | .waiting q p _ => some ⟨q, (p.finish s).1⟩
  | _ => none

namespace Engine

/-- Whether a question asks the store to change. -/
def Question.isWrite : Question → Bool
  | .createTicket _ | .updateTicket _ | .createSubscription _ | .updateSubscription _
  | .deleteSubscription _ => true
  | _ => false

/-- The failure that an exchange means for a run: nobody but the look-up of the ticket may come back
with nothing, and an unknown tracker or a cancelled token ends the run. -/
def failure? : Exchange Engine → Option Failure
  | ⟨.findTicket _, .error f⟩ => if f.isNotFound then none else some f
  | ⟨.condition .., .error f⟩ => some f
  | ⟨.render .., .error f⟩ => some f
  | ⟨.isRegistered tracker, false⟩ => some (.trackerNotRegistered tracker)
  | ⟨.call .., .error f⟩ => some f
  | ⟨.isCancelled, true⟩ => some .cancelled
  | ⟨.createTicket _, .error f⟩ => some f
  | ⟨.updateTicket _, .error f⟩ => some f
  | _ => none

/-- An exchange in which the run went on and the store was only read. -/
def Quiet (x : Exchange Engine) : Prop := failure? x = none ∧ x.question.isWrite = false

/-- An exchange that stored exactly this ticket. -/
def Stores (x : Exchange Engine) (t : Ticket) : Prop :=
  x = ⟨.updateTicket t, .ok ()⟩ ∨
    ∃ new : Ticket, new.isPersisted = false ∧ x = ⟨.createTicket new, .ok t.id⟩ ∧
      t = { new with id := t.id }

/-- Something beside a run that leaves the store alone. -/
structure Aside (τ : Type) where
  change : World τ → World τ
  store_change : ∀ w, (change w).store = w.store

/-- What happens next: the run has a turn, or something else happens. -/
inductive Turn (τ : Type) where
  | own
  | aside (a : Aside τ)

/-- A run under way, its surroundings, and the exchanges that it has had, in order. -/
structure Course (τ : Type) where
  task : Task Engine (World τ) Ticket
  world : World τ
  exchanges : List (Exchange Engine) := []

namespace Course

variable {τ : Type}

/-- A run that has not begun. -/
def start (j : Job) (u : Update) (w : World τ) : Course τ := { task := .ready (runJob j u), world := w }

/-- The course after one more turn. -/
def turn (e : Surroundings τ) (c : Course τ) : Turn τ → Course τ
  | .own =>
    let h := World.handler e
    ⟨(c.task.step h c.world).1, (c.task.step h c.world).2,
      c.exchanges ++ (c.task.exchange? h c.world).toList⟩
  | .aside a => { c with world := a.change c.world }

/-- The course after turns. -/
def after (e : Surroundings τ) (c : Course τ) (turns : List (Turn τ)) : Course τ :=
  turns.foldl (turn e) c

end Course

/-! ### What is left of a run at any moment -/

/-- A script that only reads until it stores its ticket, and that ends with the first failure. -/
inductive Orderly : Script Engine Ticket → Prop
  | look {q : Question} {next : q.Answer → Script Engine Ticket} (reads : q.isWrite = false)
      (goes : ∀ a, failure? ⟨q, a⟩ = none → Orderly (next a))
      (fails : ∀ a f, failure? ⟨q, a⟩ = some f → next a = .fail f) : Orderly (.ask q next)
  | create (t : Ticket) (new : t.isPersisted = false) :
      Orderly (.ask (.createTicket t) fun r => (Script.ofOutcome r).bind fun id => .done { t with id })
  | update (t : Ticket) (known : t.isPersisted = true) :
      Orderly (.ask (.updateTicket t) fun r => (Script.ofOutcome r).bind fun _ => .done t)

theorem orderly_save (t : Ticket) : Orderly (save t) := by
  cases ht : t.isPersisted with
  | true => simpa [save, ht, inquire] using Orderly.update t ht
  | false => simpa [save, ht, inquire] using Orderly.create t ht

/-- A question whose answer goes on with a value or is a failure. -/
theorem Orderly.ask_outcome {α : Type} {q : Question} {read : q.Answer → Outcome α}
    {next : q.Answer → Script Engine Ticket} {k : α → Script Engine Ticket}
    (hreads : q.isWrite = false)
    (hread : ∀ a, failure? ⟨q, a⟩ = match read a with | .ok _ => none | .error f => some f)
    (hnext : ∀ a, next a = (Script.ofOutcome (read a)).bind k) (hk : ∀ x, Orderly (k x)) :
    Orderly (.ask q next) := by
  refine .look hreads ?_ ?_
  · intro a ha
    rw [hread] at ha
    rw [hnext]
    cases hr : read a with
    | ok x => exact hk x
    | error f => simp [hr] at ha
  · intro a f ha
    rw [hread] at ha
    rw [hnext]
    cases hr : read a with
    | ok x => simp [hr] at ha
    | error g =>
      rw [hr] at ha
      exact congrArg Script.fail (Option.some.inj ha)

theorem orderly_checkpoint {k : Unit → Script Engine Ticket} (hk : Orderly (k ())) :
    Orderly (checkpoint.bind k) := by
  refine @Orderly.ask_outcome Unit .isCancelled (fun c => if c then .error .cancelled else .ok ())
    _ k rfl ?_ ?_ fun _ => hk
  · intro a
    cases a <;> rfl
  · intro a
    cases a <;> rfl

theorem orderly_requireTracker (name : String) {k : Unit → Script Engine Ticket}
    (hk : Orderly (k ())) : Orderly ((requireTracker name).bind k) := by
  refine @Orderly.ask_outcome Unit (.isRegistered name)
    (fun known => if known then .ok () else .error (.trackerNotRegistered name)) _ k rfl ?_ ?_
    fun _ => hk
  · intro a
    cases a <;> rfl
  · intro a
    cases a <;> rfl

/-- What a run makes of the answer to the look-up of its ticket. -/
def foundOrNew : Outcome Ticket → Outcome Ticket
  | .ok t => .ok t
  | .error f => if f.isNotFound then .ok {} else .error f

theorem orderly_resolve (source : Locator) {k : Ticket → Script Engine Ticket}
    (hk : ∀ t, Orderly (k t)) : Orderly ((resolve source).bind k) := by
  refine @Orderly.ask_outcome Ticket (.findTicket (.locator source)) foundOrNew _ k rfl ?_ ?_ hk
  · intro a
    cases a with
    | ok t => rfl
    | error f => cases hf : f.isNotFound <;> simp [failure?, foundOrNew, hf]
  · intro a
    cases a with
    | ok t => rfl
    | error f => cases hf : f.isNotFound <;> simp [foundOrNew, hf, Script.ofOutcome]

theorem orderly_runAction (u : Update) (a : Action) (t : Ticket) {k : Ticket → Script Engine Ticket}
    (hk : ∀ t, Orderly (k t)) : Orderly ((runAction u a t).bind k) := by
  have hcall : ∀ vars, Orderly (.ask (.call a.name.tracker (a.request vars t)) fun r =>
      (Script.ofOutcome r).bind fun id => k (a.link t id)) := by
    intro vars
    refine @Orderly.ask_outcome String _ id _ (fun id => k (a.link t id)) rfl ?_ (fun _ => rfl)
      fun id => hk _
    intro r
    cases r <;> rfl
  have hrender : Orderly (.ask (.render a.vars u t) fun r => (Script.ofOutcome r).bind fun vars =>
      (requireTracker a.name.tracker).bind fun _ =>
        .ask (.call a.name.tracker (a.request vars t)) fun r =>
          (Script.ofOutcome r).bind fun id => k (a.link t id)) := by
    refine @Orderly.ask_outcome Vars _ id _ _ rfl ?_ (fun _ => rfl) fun vars =>
      orderly_requireTracker _ (hcall vars)
    intro r
    cases r <;> rfl
  simpa [runAction, inquire, Script.bind_assoc] using hrender

mutual
/-- Whatever follows a step, it is not reached before every question of the step went well. -/
theorem orderly_runStep (u : Update) (s : Step) (t : Ticket) {k : Ticket → Script Engine Ticket}
    (hk : ∀ t, Orderly (k t)) : Orderly ((runStep u s t).bind k) := by
  cases s with
  | action a => exact orderly_runAction u a t hk
  | branch condition steps =>
    have hbranch : Orderly (.ask (.condition condition u t) fun r =>
        (Script.ofOutcome r).bind fun holds =>
          (if holds then runSteps u steps t else .done t).bind k) := by
      refine @Orderly.ask_outcome Bool _ id _ _ rfl ?_ (fun _ => rfl) ?_
      · intro r
        cases r <;> rfl
      · intro holds
        cases holds with
        | true => exact orderly_runSteps u steps t hk
        | false => exact hk t
    simpa [runStep, inquire, Script.bind_assoc] using hbranch

theorem orderly_runSteps (u : Update) (steps : List Step) (t : Ticket)
    {k : Ticket → Script Engine Ticket} (hk : ∀ t, Orderly (k t)) :
    Orderly ((runSteps u steps t).bind k) := by
  cases steps with
  | nil => simpa [runSteps] using hk t
  | cons s rest =>
    have hstep := orderly_runStep u s t fun t => orderly_runSteps u rest t hk
    simpa [runSteps, Script.bind_assoc] using orderly_checkpoint hstep
end

theorem orderly_runJob (j : Job) (u : Update) : Orderly (runJob j u) := by
  have hend : ∀ t, Orderly (checkpoint.bind fun _ => save t) := fun t =>
    orderly_checkpoint (orderly_save t)
  exact orderly_resolve _ fun t => orderly_runSteps u j.steps (t.patch u) hend

end Engine
end TicketSync
