import TicketSync.Failure

/-!
Scripts: what an operation asks of its surroundings, one question at a time, and what it does with
each answer. A script holds no state and has no effect of its own, so the same script can be run
alone, among others, on a clock, or be given up after any answer.
-/
namespace TicketSync

/-- The questions that can be asked, with the type of the answer to each. -/
structure Dialogue where
  Question : Type
  Answer : Question → Type

/-- An operation that asks questions and ends with a value or a failure. -/
inductive Script (D : Dialogue) (α : Type) where
  | done (x : α)
  | fail (f : Failure)
  | ask (q : D.Question) (next : D.Answer q → Script D α)

namespace Script

variable {D : Dialogue} {α β : Type}

/-- One script and then another. A failure of the first is the failure of both. -/
def bind : Script D α → (α → Script D β) → Script D β
  | done x, f => f x
  | fail e, _ => fail e
  | ask q next, f => ask q fun a => (next a).bind f

instance : Monad (Script D) where
  pure := done
  bind := bind

/-- The script that asks one question and ends with the answer. -/
def question (q : D.Question) : Script D (D.Answer q) := ask q done

/-- The script that ends at once as an outcome says. -/
def ofOutcome : Outcome α → Script D α
  | .ok x => done x
  | .error f => fail f

/-- The script that ends with the outcome of another one, also when that fails. -/
def attempt : Script D α → Script D (Outcome α)
  | done x => done (.ok x)
  | fail f => done (.error f)
  | ask q next => ask q fun a => (next a).attempt

/-- The script with every question asked in another dialogue. -/
def relay {E : Dialogue} (f : (q : D.Question) → Script E (D.Answer q)) :
    Script D α → Script E α
  | done x => done x
  | fail e => fail e
  | ask q next => (f q).bind fun a => (next a).relay f

@[simp] theorem done_bind (x : α) (f : α → Script D β) : (done x).bind f = f x := rfl

@[simp] theorem fail_bind (e : Failure) (f : α → Script D β) :
    (fail e : Script D α).bind f = fail e := rfl

@[simp] theorem ask_bind (q : D.Question) (next : D.Answer q → Script D α)
    (f : α → Script D β) : (ask q next).bind f = ask q fun a => (next a).bind f := rfl

@[simp] theorem bind_done (s : Script D α) : s.bind done = s := by
  induction s with
  | done => rfl
  | fail => rfl
  | ask q next ih => simp [bind, ih]

theorem bind_assoc {γ : Type} (s : Script D α) (f : α → Script D β) (g : β → Script D γ) :
    (s.bind f).bind g = s.bind fun x => (f x).bind g := by
  induction s with
  | done => rfl
  | fail => rfl
  | ask q next ih => simp [bind, ih]

@[simp] theorem pure_eq (x : α) : (pure x : Script D α) = done x := rfl

@[simp] theorem bind_eq (s : Script D α) (f : α → Script D β) : s >>= f = s.bind f := rfl

end Script

/-! ### Running -/

/-- Surroundings with a state that answer every question at once. -/
abbrev Responder (D : Dialogue) (σ : Type) :=
  (q : D.Question) → σ → D.Answer q × σ

/-- A question with its answer. -/
structure Exchange (D : Dialogue) where
  question : D.Question
  answer : D.Answer question

namespace Script

variable {D : Dialogue} {σ α β : Type}

/-- Runs a script with nothing in between: its outcome, and the state after it. -/
def run (r : Responder D σ) : Script D α → σ → Outcome α × σ
  | done x, s => (.ok x, s)
  | fail f, s => (.error f, s)
  | ask q next, s =>
    let (a, s) := r q s
    (next a).run r s

/-- The exchanges of a run, in order. -/
def exchanges (r : Responder D σ) : Script D α → σ → List (Exchange D)
  | done _, _ => []
  | fail _, _ => []
  | ask q next, s =>
    let (a, s) := r q s
    ⟨q, a⟩ :: (next a).exchanges r s

/-- What is left of a script after a number of questions, and the state then. A run that is given
up leaves this state behind. -/
def runFor (r : Responder D σ) : Nat → Script D α → σ → Script D α × σ
  | 0, script, s => (script, s)
  | _ + 1, done x, s => (done x, s)
  | _ + 1, fail f, s => (fail f, s)
  | n + 1, ask q next, s =>
    let (a, s) := r q s
    (next a).runFor r n s

theorem run_bind (r : Responder D σ) (script : Script D α) (f : α → Script D β) (s : σ) :
    (script.bind f).run r s =
      match script.run r s with
      | (.ok x, s) => (f x).run r s
      | (.error e, s) => (.error e, s) := by
  induction script generalizing s with
  | done => rfl
  | fail => rfl
  | ask q next ih => simp [bind, run, ih]

end Script
end TicketSync
