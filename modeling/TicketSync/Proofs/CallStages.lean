import TicketSync.Plugin.Redial
import TicketSync.Proofs.ScriptTrace

/-! # Where a caller is with its call

A call over a shared connection goes through few stages, and which one follows is decided by the
answer alone. `At` ties a stage to what the caller has left to do and to the number of attempts that
may follow; it holds of every call at its beginning, and from there every answer leads from stage to
stage. -/
namespace TicketSync.Plugin.Redial

/-- Where a caller is with its call: it looks for the shared connection, dials, installs what it
dialled, has sent its call, drops a connection that was lost, pauses, or has its outcome. -/
inductive Stage (κ : Type) where
  | looking
  | dialling
  | installing (c : κ)
  | sending (c : κ)
  | dropping (c : κ)
  | pausing
  | ended (r : Outcome Json)

/-- The stage after an attempt in vain: a pause if another attempt may follow, or else the end with
the failure of this one. -/
def Stage.afterFailure {κ : Type} (left : Nat) (f : Failure) : Stage κ :=
  if left = 0 then .ended (.error f) else .pausing

/-- The stage after a dial in vain. A cancelled caller does not try again. -/
def Stage.afterRefusal {κ : Type} (left : Nat) (f : Failure) : Stage κ :=
  if f.isCancelled then .ended (.error f) else .afterFailure left f

/-- The stage after a call on a connection has ended. -/
def Stage.afterSending {κ : Type} (c : κ) (r : Outcome Json) : Stage κ :=
  if isLost r then .dropping c else .ended r

/-- What a caller has left to do in a stage, where so many attempts may follow the present one. -/
inductive At {κ : Type} (method : String) (params : Json) :
    Nat → Stage κ → Script (Redial κ) Json → Prop
  | looking {n : Nat} {next : Option κ → Script (Redial κ) Json}
      (live : ∀ c, At method params n (.sending c) (next (some c)))
      (none : At method params n .dialling (next none)) :
      At method params n .looking (.ask .current next)
  | dialling {n : Nat} {next : Outcome κ → Script (Redial κ) Json}
      (dialled : ∀ c, At method params n (.installing c) (next (.ok c)))
      (refused : ∀ f, At method params n (.afterRefusal n f) (next (.error f))) :
      At method params n .dialling (.ask .dial next)
  | installing {n : Nat} {c : κ} {next : κ → Script (Redial κ) Json}
      (kept : ∀ c', At method params n (.sending c') (next c')) :
      At method params n (.installing c) (.ask (.install c) next)
  | sending {n : Nat} {c : κ} {next : Outcome Json → Script (Redial κ) Json}
      (ended : ∀ r, At method params n (.afterSending c r) (next r)) :
      At method params n (.sending c) (.ask (.send c method params) next)
  | dropping {n : Nat} {c : κ} {next : Unit → Script (Redial κ) Json}
      (dropped : At method params n (.afterFailure n .connectionLost) (next ())) :
      At method params n (.dropping c) (.ask (.invalidate c) next)
  | pausing {n : Nat} {next : Outcome Unit → Script (Redial κ) Json}
      (paused : At method params n .looking (next (.ok ())))
      (cut : ∀ f, At method params n (.ended (.error f)) (next (.error f))) :
      At method params (n + 1) .pausing (.ask .pause next)
  | ended {n : Nat} (r : Outcome Json) : At method params n (.ended r) (.ofOutcome r)

variable {κ : Type} {method : String} {params : Json}

/-! ### Every call goes through the stages -/

/-- An attempt, after which the call is settled or tried again so many times. -/
def attemptThen (method : String) (params : Json) (n : Nat) : Script (Redial κ) Json :=
  (attempt method params).bind fun
    | .ok r => .ofOutcome r
    | .error f => retryWithin method params n f

theorem at_attemptThen {n : Nat}
    (hretry : ∀ f, At method params n (.afterFailure n f)
      (retryWithin method params n f : Script (Redial κ) Json)) :
    At method params n .looking (attemptThen method params n : Script (Redial κ) Json) := by
  have hsend : ∀ c : κ, At method params n (.sending c)
      (.ask (.send c method params) fun r =>
        ((if isLost r then (inquire (.invalidate c)).bind fun _ => .done (.error .connectionLost)
          else .done (.ok r) : Script (Redial κ) (Except Failure (Outcome Json)))).bind fun
            | .ok r => .ofOutcome r
            | .error f => retryWithin method params n f) := by
    intro c
    refine .sending fun r => ?_
    cases hlost : isLost r with
    | true =>
      simp only [Stage.afterSending, hlost, if_true]
      exact .dropping (hretry _)
    | false =>
      simp only [Stage.afterSending, hlost, Bool.false_eq_true, if_false]
      exact .ended r
  refine .looking hsend (.dialling (fun c => .installing hsend) fun f => ?_)
  cases hcancelled : f.isCancelled with
  | true =>
    simp only [Stage.afterRefusal, hcancelled, if_true, Script.pure_eq, Script.done_bind]
    exact .ended _
  | false =>
    simp only [Stage.afterRefusal, hcancelled, Bool.false_eq_true, if_false, Script.pure_eq,
      Script.done_bind]
    exact hretry f

theorem at_retryWithin (n : Nat) (f : Failure) :
    At method params n (.afterFailure n f)
      (retryWithin method params n f : Script (Redial κ) Json) := by
  induction n generalizing f with
  | zero => exact .ended (.error f)
  | succ n ih => exact .pausing (at_attemptThen ih) fun f => .ended (.error f)

theorem call_eq (p : RetryPolicy) (method : String) (params : Json) :
    (call p method params : Script (Redial κ) Json) = attemptThen method params (p.budget - 1) :=
  rfl

/-- A call begins with a look at the shared connection. -/
theorem at_call (p : RetryPolicy) (method : String) (params : Json) :
    At method params (p.budget - 1) .looking (call p method params : Script (Redial κ) Json) := by
  rw [call_eq]
  exact at_attemptThen (at_retryWithin _)

/-! ### What an answer leads to -/

/-- The stage of a caller, by what it asks next. -/
def Stage.ofScript : Script (Redial κ) Json → Stage κ
  | .ask .current _ => .looking
  | .ask .dial _ => .dialling
  | .ask (.install c) _ => .installing c
  | .ask (.send c _ _) _ => .sending c
  | .ask (.invalidate c) _ => .dropping c
  | .ask .pause _ => .pausing
  | .done v => .ended (.ok v)
  | .fail f => .ended (.error f)

theorem At.ofScript_eq {n : Nat} {stage : Stage κ} {s : Script (Redial κ) Json}
    (h : At method params n stage s) : Stage.ofScript s = stage := by
  cases h with
  | ended r => cases r <;> rfl
  | _ => rfl

/-- Only the end is left at the end. -/
theorem At.eq_of_ended {n : Nat} {r : Outcome Json} {s : Script (Redial κ) Json}
    (h : At method params n (.ended r) s) : s = .ofOutcome r := by
  cases h
  rfl

/-- The stage that an answer leads to, where so many attempts may follow the present one. -/
def Question.leadsTo (n : Nat) : (q : Question κ) → q.Answer → Stage κ
  | .current, some c => .sending c
  | .current, none => .dialling
  | .dial, .ok c => .installing c
  | .dial, .error f => .afterRefusal n f
  | .install _, kept => .sending kept
  | .send c _ _, r => .afterSending c r
  | .invalidate _, _ => .afterFailure n .connectionLost
  | .pause, .ok _ => .looking
  | .pause, .error f => .ended (.error f)

/-- Whatever the answer to a question is, it leads to another stage. -/
theorem At.answered {n : Nat} {stage : Stage κ} {q : Question κ}
    {next : q.Answer → Script (Redial κ) Json} (h : At method params n stage (.ask q next))
    (a : q.Answer) : ∃ n', At method params n' (q.leadsTo n a) (next a) := by
  generalize hs : (Script.ask q next : Script (Redial κ) Json) = s at h
  cases h with
  | looking live none =>
    cases hs
    cases a with
    | none => exact ⟨_, none⟩
    | some c => exact ⟨_, live c⟩
  | dialling dialled refused =>
    cases hs
    cases a with
    | ok c => exact ⟨_, dialled c⟩
    | error f => exact ⟨_, refused f⟩
  | installing kept =>
    cases hs
    exact ⟨_, kept a⟩
  | sending ended =>
    cases hs
    exact ⟨_, ended a⟩
  | dropping dropped =>
    cases hs
    exact ⟨_, dropped⟩
  | pausing paused cut =>
    cases hs
    cases a with
    | ok => exact ⟨_, paused⟩
    | error f => exact ⟨_, cut f⟩
  | ended r => cases r <;> cases hs

/-- What is left of a call after exchanges is in a stage. -/
theorem At.leads {n : Nat} {stage : Stage κ} {s s' : Script (Redial κ) Json}
    {xs : List (Exchange (Redial κ))} (h : At method params n stage s) (hleads : s.Leads xs s') :
    ∃ n' stage', At method params n' stage' s' := by
  induction hleads generalizing n stage with
  | refl s => exact ⟨n, stage, h⟩
  | ask a rest ih =>
    obtain ⟨n', hnext⟩ := h.answered a
    exact ih hnext

/-- A call that is sent is the one that was asked for, and unless its connection is lost its end is
the end of the whole call. -/
theorem At.sent {n : Nat} {stage : Stage κ} {c : κ} {m : String} {v : Json}
    {next : Outcome Json → Script (Redial κ) Json}
    (h : At method params n stage (.ask (.send c m v) next)) :
    m = method ∧ v = params ∧ ∀ r, isLost r = false → next r = .ofOutcome r := by
  generalize hs : (Script.ask (.send c m v) next : Script (Redial κ) Json) = s at h
  cases h with
  | sending ended =>
    cases hs
    refine ⟨rfl, rfl, fun r hr => ?_⟩
    have hend := ended r
    rw [Stage.afterSending, hr] at hend
    exact hend.eq_of_ended
  | ended r => cases r <;> cases hs
  | _ => cases hs

end TicketSync.Plugin.Redial
