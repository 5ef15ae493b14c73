import TicketSync.Proofs.AnsweredCalls
import TicketSync.Rehearsal.Peer

/-! # The attempts of a lone caller

A caller that is alone with its connection goes through attempts: a dial in vain, or one call on a
connection that is live or was dialled for it. Each attempt leaves a connection or none behind, and
that alone decides how the next one begins, also in the next call. -/
namespace TicketSync.Plugin.Redial

/-! ### Attempts -/

/-- An attempt at a call: a dial in vain, or a call with its reply, on the connection that was live
or on one that was dialled for it. -/
inductive Attempt (κ : Type) where
  | refused (f : Failure)
  | onLive (c : κ) (reply : Outcome Json)
  | onNew (c : κ) (reply : Outcome Json)

namespace Attempt

variable {κ : Type}

/-- The connection that the call was sent on. -/
def connection? : Attempt κ → Option κ
  | refused _ => none
  | onLive c _ | onNew c _ => some c

/-- The connection that was dialled. -/
def dialled? : Attempt κ → Option κ
  | onNew c _ => some c
  | _ => none

/-- The connection that was lost before a reply. -/
def lost? : Attempt κ → Option κ
  | refused _ => none
  | onLive c reply | onNew c reply => if isLost reply then some c else none

/-- The connection that is live after the attempt. -/
def live : Attempt κ → Option κ
  | refused _ => none
  | onLive c reply | onNew c reply => if isLost reply then none else some c

/-- The outcome of the call, if the attempt settles it. -/
def answer? : Attempt κ → Option (Outcome Json)
  | refused _ => none
  | onLive _ reply | onNew _ reply => if isLost reply then none else some reply

/-- Why the attempt was in vain, if it was. -/
def cause : Attempt κ → Failure
  | refused f => f
  | _ => .connectionLost

/-- How an attempt begins: by a call on the live connection, or by a dial if there is none. -/
def Fits (live : Option κ) : Attempt κ → Prop
  | refused _ => live = none
  | onLive c _ => live = some c
  | onNew .. => live = none

/-- What is asked from the call on. A connection that was lost is dropped. -/
def sending (method : String) (params : Json) (c : κ) (reply : Outcome Json) :
    List (Exchange (Redial κ)) :=
  ⟨.send c method params, reply⟩ :: if isLost reply then [⟨.invalidate c, ()⟩] else []

/-- What is asked in an attempt, with the answers. -/
def exchanges (method : String) (params : Json) : Attempt κ → List (Exchange (Redial κ))
  | refused f => [⟨.current, none⟩, ⟨.dial, .error f⟩]
  | onLive c reply => ⟨.current, some c⟩ :: sending method params c reply
  | onNew c reply =>
    ⟨.current, none⟩ :: ⟨.dial, .ok c⟩ :: ⟨.install c, c⟩ :: sending method params c reply

/-- What is asked in attempts after one in vain: a pause before each of them. -/
def spellMore (method : String) (params : Json) (more : List (Attempt κ)) :
    List (Exchange (Redial κ)) :=
  more.flatMap fun b => ⟨.pause, .ok ()⟩ :: b.exchanges method params

/-- What is asked in attempts, with a pause between any two. -/
def spell (method : String) (params : Json) : List (Attempt κ) → List (Exchange (Redial κ))
  | [] => []
  | a :: more => a.exchanges method params ++ spellMore method params more

/-- Attempts of which each begins with what the one before it left behind. -/
def Follow : (live : Option κ) → List (Attempt κ) → Prop
  | _, [] => True
  | live, a :: more => a.Fits live ∧ Follow a.live more

/-- The connection that is live after attempts. -/
def liveAfter (live : Option κ) (attempts : List (Attempt κ)) : Option κ :=
  attempts.foldl (fun _ a => a.live) live

theorem follow_append {live : Option κ} {attempts more : List (Attempt κ)} :
    Follow live (attempts ++ more) ↔
      Follow live attempts ∧ Follow (liveAfter live attempts) more := by
  induction attempts generalizing live with
  | nil => simp [Follow, liveAfter]
  | cons a attempts ih =>
    rw [List.cons_append, Follow, ih, Follow, and_assoc]
    rfl

theorem connection_of_live {a : Attempt κ} {c : κ} (h : a.live = some c) :
    a.connection? = some c := by
  cases a with
  | refused f => cases h
  | onLive c' reply | onNew c' reply =>
    cases hlost : isLost reply <;> simp [live, hlost] at h
    exact congrArg some h

theorem live_of_lost {a : Attempt κ} {c : κ} (h : a.lost? = some c) : a.live = none := by
  cases a with
  | refused f => cases h
  | onLive c' reply | onNew c' reply =>
    cases hlost : isLost reply <;> simp [lost?, hlost] at h
    simp [live, hlost]

theorem live_of_answer {a : Attempt κ} {reply : Outcome Json} (h : a.answer? = some reply) :
    ∃ c, a.connection? = some c ∧ a.live = some c := by
  cases a with
  | refused f => cases h
  | onLive c reply' | onNew c reply' =>
    cases hlost : isLost reply' <;> simp [answer?, hlost] at h
    exact ⟨c, rfl, by simp [live, hlost]⟩

/-- A call is sent on the connection that is live or on one that was dialled. -/
theorem Fits.connection {live : Option κ} {a : Attempt κ} {c : κ} (h : a.Fits live)
    (hc : a.connection? = some c) : live = some c ∨ a.dialled? = some c := by
  cases a with
  | refused f => cases hc
  | onLive c' reply => exact .inl (h.trans hc)
  | onNew c' reply => exact .inr hc

/-- A connection that is not live is not used again before it was dialled. -/
theorem Follow.dialled_again {live : Option κ} {between after : List (Attempt κ)} {b : Attempt κ}
    {c : κ} (h : Follow live (between ++ b :: after)) (hlive : live ≠ some c)
    (hb : b.connection? = some c) : ∃ x ∈ between ++ [b], x.dialled? = some c := by
  induction between generalizing live with
  | nil =>
    rcases h.1.connection hb with hused | hdialled
    · exact absurd hused hlive
    · exact ⟨b, List.mem_singleton_self b, hdialled⟩
  | cons a between ih =>
    obtain ⟨hfits, hmore⟩ := h
    by_cases ha : a.live = some c
    · rcases hfits.connection (connection_of_live ha) with hused | hdialled
      · exact absurd hused hlive
      · exact ⟨a, List.mem_cons_self, hdialled⟩
    · obtain ⟨x, hx, hdialled⟩ := ih hmore ha
      exact ⟨x, List.mem_cons_of_mem a hx, hdialled⟩

/-- A connection that was lost is not used again before it was dialled once more. -/
theorem Follow.lost_unused {live : Option κ} {before between after : List (Attempt κ)}
    {a b : Attempt κ} {c : κ} (h : Follow live (before ++ a :: (between ++ b :: after)))
    (ha : a.lost? = some c) (hb : b.connection? = some c) :
    ∃ x ∈ between ++ [b], x.dialled? = some c := by
  obtain ⟨-, -, hrest⟩ := follow_append.mp h
  exact hrest.dialled_again (by simp [live_of_lost ha]) hb

end Attempt

open Attempt

/-! ### How attempts end -/

section
variable {κ : Type}

/-- How attempts end a call if there may be so many: with the answer of the last one, or spent with
the failure of the last one. Before the first one the failure is given. -/
inductive Ends : Nat → Failure → List (Attempt κ) → Outcome Json → Prop
  | spent (f : Failure) : Ends 0 f [] (.error f)
  | answered {n : Nat} {f : Failure} {a : Attempt κ} {reply : Outcome Json}
      (settles : a.answer? = some reply) : Ends (n + 1) f [a] reply
  | again {n : Nat} {f : Failure} {a : Attempt κ} {more : List (Attempt κ)} {o : Outcome Json}
      (vain : a.answer? = none) (rest : Ends n a.cause more o) : Ends (n + 1) f (a :: more) o

/-- Attempts that keep to a budget: one that is answered is the last and gives the outcome, and if
none is, all of the budget was used and the outcome is the failure of the last one. -/
structure KeepsTo (budget : Nat) (attempts : List (Attempt κ)) (o : Outcome Json) : Prop where
  within : attempts.length ≤ budget
  answered : ∀ before a after reply, attempts = before ++ a :: after → a.answer? = some reply →
    after = [] ∧ o = reply
  spent : (∀ a ∈ attempts, a.answer? = none) →
    attempts.length = budget ∧ ∃ a, attempts.getLast? = some a ∧ o = .error a.cause

theorem Ends.of_vain {n : Nat} {f : Failure} {attempts : List (Attempt κ)} {o : Outcome Json}
    (h : Ends n f attempts o) (hvain : ∀ a ∈ attempts, a.answer? = none) :
    attempts.length = n ∧ o = .error ((attempts.getLast?.map Attempt.cause).getD f) := by
  induction h with
  | spent f => exact ⟨rfl, rfl⟩
  | answered settles => simp [settles] at hvain
  | @again n f a more o vain rest ih =>
    obtain ⟨hlength, ho⟩ := ih fun b hb => hvain b (List.mem_cons_of_mem a hb)
    refine ⟨congrArg (· + 1) hlength, ?_⟩
    rw [ho]
    cases more with
    | nil => rfl
    | cons b more => simp [List.getLast?_cons]

theorem Ends.length_le {n : Nat} {f : Failure} {attempts : List (Attempt κ)} {o : Outcome Json}
    (h : Ends n f attempts o) : attempts.length ≤ n := by
  induction h with
  | spent => exact Nat.le_refl _
  | answered => simp
  | again _ _ ih => exact Nat.succ_le_succ ih

theorem Ends.of_answered {n : Nat} {f : Failure} {attempts before after : List (Attempt κ)}
    {a : Attempt κ} {o reply : Outcome Json} (h : Ends n f attempts o)
    (hsplit : attempts = before ++ a :: after) (ha : a.answer? = some reply) :
    after = [] ∧ o = reply := by
  induction h generalizing before with
  | spent f => simp at hsplit
  | @answered n f b reply' settles =>
    cases before with
    | nil =>
      obtain ⟨rfl, rfl⟩ := List.cons.inj hsplit
      exact ⟨rfl, Option.some.inj (settles.symm.trans ha)⟩
    | cons b' before => simp at hsplit
  | @again n f b more o vain rest ih =>
    cases before with
    | nil =>
      obtain ⟨rfl, rfl⟩ := List.cons.inj hsplit
      cases vain.symm.trans ha
    | cons b' before => exact ih (List.cons.inj hsplit).2

theorem Ends.keepsTo {n : Nat} {f : Failure} {attempts : List (Attempt κ)} {o : Outcome Json}
    (h : Ends n f attempts o) (hn : 0 < n) : KeepsTo n attempts o where
  within := h.length_le
  answered _ _ _ _ hsplit ha := h.of_answered hsplit ha
  spent hvain := by
    obtain ⟨hlength, ho⟩ := h.of_vain hvain
    refine ⟨hlength, ?_⟩
    cases hlast : attempts.getLast? with
    | none =>
      rw [List.getLast?_eq_none_iff.mp hlast] at hlength
      exact absurd hlength (Nat.ne_of_lt hn)
    | some a => exact ⟨a, rfl, by rw [ho, hlast]; rfl⟩

theorem KeepsTo.exists_cons {budget : Nat} {attempts : List (Attempt κ)} {o : Outcome Json}
    (h : KeepsTo budget attempts o) : ∃ a more, attempts = a :: more := by
  cases attempts with
  | cons a more => exact ⟨a, more, rfl⟩
  | nil =>
    obtain ⟨-, a, hlast, -⟩ := h.spent (by simp)
    cases hlast

end

/-! ### One attempt -/

/-- The part of an attempt from the call on. -/
def sendOn {κ : Type} (method : String) (params : Json) (c : κ) :
    Script (Redial κ) (Except Failure (Outcome Json)) :=
  .ask (.send c method params) fun reply =>
    if isLost reply then .ask (.invalidate c) fun _ => .done (.error .connectionLost)
    else .done (.ok reply)

theorem attempt_eq {κ : Type} (method : String) (params : Json) :
    (attempt method params : Script (Redial κ) _) = .ask .current fun
      | some c => sendOn method params c
      | none => .ask .dial fun
        | .ok c => .ask (.install c) (sendOn method params)
        | .error f => .done (if f.isCancelled then .ok (.error f) else .error f) := by
  simp only [attempt, obtain, inquire, Script.bind_eq, Script.ask_bind, Script.done_bind]
  congr 1
  funext live
  cases live with
  | some c => rfl
  | none =>
    simp only [Script.ask_bind]
    congr 1
    funext dialled
    cases dialled <;> rfl

variable {κ σ : Type} [DecidableEq κ] {r : Responder (Redial κ) σ} {shared : σ → Option κ}
  {method : String} {params : Json} {s : σ}

/-- Surroundings of one caller whose token is never cancelled: nobody else changes the connection
that is shared. Dials and calls end in any way. -/
structure Alone (r : Responder (Redial κ) σ) (shared : σ → Option κ) : Prop where
  current : ∀ s, (r .current s).1 = shared s ∧ shared (r .current s).2 = shared s
  dial : ∀ s, shared (r .dial s).2 = shared s
  install : ∀ s c, (r (.install c) s).1 = keep (shared s) c ∧
    shared (r (.install c) s).2 = some (keep (shared s) c)
  send : ∀ s c method params, shared (r (.send c method params) s).2 = shared s
  invalidate : ∀ s c, shared (r (.invalidate c) s).2 = drop (shared s) c
  pause : ∀ s, (r .pause s).1 = .ok () ∧ shared (r .pause s).2 = shared s

/-- What is known of an attempt in surroundings: what was asked in it, how it began, its result, and
the connection that it left behind. -/
structure Attempt.Made (r : Responder (Redial κ) σ) (shared : σ → Option κ) (method : String)
    (params : Json) (s : σ) (a : Attempt κ) : Prop where
  asked : (attempt method params).exchanges r s = a.exchanges method params
  begun : a.Fits (shared s)
  result : ((attempt method params).run r s).1 =
    .ok (match a.answer? with
      | some reply => .ok reply
      | none => .error a.cause)
  left : shared ((attempt method params).run r s).2 = a.live

theorem Alone.sendOn (h : Alone r shared) (method : String) (params : Json) {c : κ}
    (hlive : shared s = some c) :
    ∃ reply, (sendOn method params c).exchanges r s = sending method params c reply ∧
      ((sendOn method params c).run r s).1 =
        .ok (if isLost reply then .error .connectionLost else .ok reply) ∧
      shared ((sendOn method params c).run r s).2 = if isLost reply then none else some c := by
  have hsend := h.send s c method params
  rcases hr : r (.send c method params) s with ⟨reply, s'⟩
  rw [hr, hlive] at hsend
  refine ⟨reply, ?_⟩
  cases hlost : isLost reply with
  | false => simpa [Redial.sendOn, Script.exchanges, Script.run, hr, hlost, sending] using hsend
  | true =>
    have hdrop : shared (r (.invalidate c) s').2 = none := by
      rw [h.invalidate, hsend, drop, if_pos rfl]
    simpa [Redial.sendOn, Script.exchanges, Script.run, hr, hlost, sending] using hdrop

/-- Every attempt is of one of the three kinds, unless its dial was cancelled. -/
theorem Alone.attempt (h : Alone r shared)
    (hdial : (⟨.dial, .error .cancelled⟩ : Exchange (Redial κ)) ∉
      (attempt method params).exchanges r s) : ∃ a, Attempt.Made r shared method params s a := by
  obtain ⟨hcurrent, hkept⟩ := h.current s
  rcases hlook : r .current s with ⟨live, s₁⟩
  rw [hlook] at hcurrent hkept
  dsimp only at hcurrent hkept
  cases live with
  | some c =>
    obtain ⟨reply, hasked, hresult, hleft⟩ :=
      h.sendOn method params (hkept.trans hcurrent.symm)
    refine ⟨.onLive c reply, ⟨?_, hcurrent.symm, ?_, ?_⟩⟩
    · simp [attempt_eq, Script.exchanges, hlook, hasked, exchanges]
    · rw [attempt_eq, Script.run, hlook, hresult]
      cases hlost : isLost reply <;> simp [answer?, cause, hlost]
    · rw [attempt_eq, Script.run, hlook, hleft, live]
  | none =>
    have hnone := h.dial s₁
    rcases hdialled : r .dial s₁ with ⟨dialled, s₂⟩
    rw [hdialled, hkept, ← hcurrent] at hnone
    cases dialled with
    | error f =>
      have hasked : (Redial.attempt method params).exchanges r s =
          [⟨.current, none⟩, ⟨.dial, .error f⟩] := by
        simp [attempt_eq, Script.exchanges, hlook, hdialled]
      have hf : f.isCancelled = false := by
        rw [← Bool.not_eq_true, Failure.isCancelled_iff]
        rintro rfl
        simp [hasked] at hdial
      refine ⟨.refused f, ⟨hasked, hcurrent.symm, ?_, ?_⟩⟩
      · simp [attempt_eq, Script.run, hlook, hdialled, hf, answer?, cause]
      · simpa [attempt_eq, Script.run, hlook, hdialled, live] using hnone
    | ok c =>
      obtain ⟨hinstalled, hlive⟩ := h.install s₂ c
      rcases hinstall : r (.install c) s₂ with ⟨kept, s₃⟩
      rw [hinstall, hnone] at hinstalled hlive
      rw [show kept = c from hinstalled] at hinstall
      replace hlive : shared s₃ = some c := hlive
      obtain ⟨reply, hasked, hresult, hleft⟩ := h.sendOn method params hlive
      refine ⟨.onNew c reply, ⟨?_, hcurrent.symm, ?_, ?_⟩⟩
      · simp [attempt_eq, Script.exchanges, hlook, hdialled, hinstall, hasked, exchanges]
      · simp only [attempt_eq, Script.run, hlook, hdialled, hinstall, hresult]
        cases hlost : isLost reply <;> simp [answer?, cause, hlost]
      · simp only [attempt_eq, Script.run, hlook, hdialled, hinstall, hleft, live]

/-! ### Calls -/

/-- What is known of a script that goes through attempts: what was asked, how each attempt began,
how the script ended if there may be so many of them, and the connection that it left behind. -/
structure Tries (r : Responder (Redial κ) σ) (shared : σ → Option κ) (s : σ)
    (script : Script (Redial κ) Json) (budget : Nat) (f : Failure)
    (asked : List (Exchange (Redial κ))) (attempts : List (Attempt κ)) : Prop where
  asked : script.exchanges r s = asked
  follow : Follow (shared s) attempts
  ends : Ends budget f attempts (script.run r s).1
  left : shared (script.run r s).2 = liveAfter (shared s) attempts

/-- An attempt, and the others after it if it was in vain. -/
theorem Alone.attemptThen (h : Alone r shared) {n : Nat} (f : Failure)
    (hdial : (⟨.dial, .error .cancelled⟩ : Exchange (Redial κ)) ∉
      (attemptThen method params n).exchanges r s)
    (hretry : ∀ f s, (⟨.dial, .error .cancelled⟩ : Exchange (Redial κ)) ∉
        (retryWithin method params n f).exchanges r s →
      ∃ more, Tries r shared s (retryWithin method params n f) n f (spellMore method params more)
        more) :
    ∃ a more, Tries r shared s (attemptThen method params n) (n + 1) f
      (a.exchanges method params ++ spellMore method params more) (a :: more) := by
  rw [Redial.attemptThen, Script.exchanges_bind, List.mem_append, not_or] at hdial
  obtain ⟨hfirst, hmore⟩ := hdial
  obtain ⟨a, ha⟩ := h.attempt hfirst
  have hasked := ha.asked
  have hresult := ha.result
  have hleft := ha.left
  rcases hrun : (Redial.attempt method params).run r s with ⟨result, s'⟩
  rw [hrun] at hresult hleft hmore
  dsimp only at hresult hleft
  subst hresult
  cases hanswer : a.answer? with
  | some reply =>
    refine ⟨a, [], ?_, ⟨ha.begun, trivial⟩, ?_, ?_⟩
    · rw [Redial.attemptThen, Script.exchanges_bind, hrun, hasked, hanswer]
      cases reply <;> rfl
    · rw [Redial.attemptThen, Script.run_bind, hrun, hanswer]
      exact .answered (by cases reply <;> exact hanswer)
    · rw [Redial.attemptThen, Script.run_bind, hrun, hanswer]
      cases reply <;> exact hleft
  | none =>
    simp only [hanswer] at hmore
    obtain ⟨more, hothers⟩ := hretry a.cause s' hmore
    refine ⟨a, more, ?_, ⟨ha.begun, hleft ▸ hothers.follow⟩, ?_, ?_⟩
    · rw [Redial.attemptThen, Script.exchanges_bind, hrun, hasked, hanswer]
      simp only [hothers.asked]
    · rw [Redial.attemptThen, Script.run_bind, hrun, hanswer]
      exact .again hanswer hothers.ends
    · rw [Redial.attemptThen, Script.run_bind, hrun, hanswer]
      simp only [hothers.left, hleft]
      rfl

theorem Alone.retryWithin (h : Alone r shared) (n : Nat) (f : Failure) (s : σ)
    (hdial : (⟨.dial, .error .cancelled⟩ : Exchange (Redial κ)) ∉
      (retryWithin method params n f).exchanges r s) :
    ∃ more, Tries r shared s (retryWithin method params n f) n f (spellMore method params more)
      more := by
  induction n generalizing f s with
  | zero => exact ⟨[], rfl, trivial, .spent f, rfl⟩
  | succ n ih =>
    obtain ⟨hpaused, hkept⟩ := h.pause s
    rcases hpause : r .pause s with ⟨paused, s'⟩
    rw [hpause] at hpaused hkept
    dsimp only at hpaused hkept
    subst hpaused
    have hscript : (Redial.retryWithin method params (n + 1) f : Script (Redial κ) Json) =
        .ask .pause fun o =>
          (Script.ofOutcome o).bind fun _ => Redial.attemptThen method params n := rfl
    have hasked : (Redial.retryWithin method params (n + 1) f).exchanges r s =
        ⟨.pause, .ok ()⟩ :: (Redial.attemptThen method params n).exchanges r s' := by
      rw [hscript, Script.exchanges, hpause]
      rfl
    have hrun : (Redial.retryWithin method params (n + 1) f).run r s =
        (Redial.attemptThen method params n).run r s' := by
      rw [hscript, Script.run, hpause]
      rfl
    rw [hasked, List.mem_cons, not_or] at hdial
    obtain ⟨a, more, hmade⟩ := h.attemptThen f hdial.2 ih
    refine ⟨a :: more, ?_, ?_, ?_, ?_⟩
    · rw [hasked, hmade.asked]
      rfl
    · exact hkept ▸ hmade.follow
    · rw [hrun]
      exact hmade.ends
    · rw [hrun, hmade.left, hkept]

theorem Alone.call (h : Alone r shared) (p : RetryPolicy)
    (hdial : (⟨.dial, .error .cancelled⟩ : Exchange (Redial κ)) ∉
      (call p method params).exchanges r s) :
    ∃ attempts, Tries r shared s (call p method params) p.budget .connectionLost
      (spell method params attempts) attempts := by
  have hbudget : p.budget - 1 + 1 = p.budget := by
    have := Nat.le_max_right p.attempts 1
    rw [RetryPolicy.budget]
    omega
  rw [call_eq] at hdial ⊢
  obtain ⟨a, more, hmade⟩ := h.attemptThen .connectionLost hdial (h.retryWithin _)
  exact ⟨a :: more, hbudget ▸ hmade⟩

/-! ### Call after call -/

/-- A call as it was made: what was asked in it, with the answers, and its outcome. -/
structure Made (κ : Type) where
  method : String
  params : Json
  asked : List (Exchange (Redial κ))
  outcome : Outcome Json

/-- Calls one after the other, each when the one before it has ended, and the state after them. -/
def made (r : Responder (Redial κ) σ) (p : RetryPolicy) :
    List (String × Json) → σ → List (Made κ) × σ
  | [], s => ([], s)
  | (method, params) :: requests, s =>
    let script : Script (Redial κ) Json := call p method params
    let (o, s') := script.run r s
    let (others, s'') := made r p requests s'
    (⟨method, params, script.exchanges r s, o⟩ :: others, s'')

/-- A call by its attempts. -/
structure Tried (κ : Type) where
  method : String
  params : Json
  attempts : List (Attempt κ)
  outcome : Outcome Json

/-- What is asked in a call with these attempts. -/
def Tried.made (t : Tried κ) : Made κ :=
  ⟨t.method, t.params, spell t.method t.params t.attempts, t.outcome⟩

/-- The attempts of calls one after the other. -/
def attemptsOf (history : List (Tried κ)) : List (Attempt κ) := history.flatMap (·.attempts)

theorem Alone.calls (h : Alone r shared) (p : RetryPolicy) (requests : List (String × Json)) (s : σ)
    (hdial : ∀ x ∈ (made r p requests s).1,
      (⟨.dial, .error .cancelled⟩ : Exchange (Redial κ)) ∉ x.asked) :
    ∃ history : List (Tried κ), (made r p requests s).1 = history.map Tried.made ∧
      (∀ t ∈ history, KeepsTo p.budget t.attempts t.outcome) ∧
      Follow (shared s) (attemptsOf history) ∧
      shared (made r p requests s).2 = liveAfter (shared s) (attemptsOf history) := by
  induction requests generalizing s with
  | nil => exact ⟨[], rfl, by simp, trivial, rfl⟩
  | cons request requests ih =>
    obtain ⟨method, params⟩ := request
    simp only [made, List.forall_mem_cons] at hdial
    obtain ⟨hfirst, hothers⟩ := hdial
    obtain ⟨attempts, hmade⟩ := h.call p hfirst
    obtain ⟨history, hsame, hkeep, hfollow, hleft⟩ := ih _ hothers
    have hbudget : 0 < p.budget := Nat.lt_of_lt_of_le Nat.one_pos (Nat.le_max_right _ _)
    rw [hmade.left] at hfollow hleft
    refine ⟨⟨method, params, attempts, ((Redial.call p method params).run r s).1⟩ :: history,
      ?_, ?_, ?_, ?_⟩
    · simp only [made, hmade.asked, hsame]
      rfl
    · exact List.forall_mem_cons.mpr ⟨hmade.ends.keepsTo hbudget, hkeep⟩
    · exact follow_append.mpr ⟨hmade.follow, hfollow⟩
    · simp only [made, hleft, attemptsOf, List.flatMap_cons, liveAfter, List.foldl_append]

/-- The call after one that was answered begins on the connection of the answer. -/
theorem begins_on_live {κ : Type} {budget : Nat} {live : Option κ} {before after : List (Tried κ)}
    {t t' : Tried κ} {a : Attempt κ} {reply : Outcome Json}
    (hfollow : Follow live (attemptsOf (before ++ t :: t' :: after)))
    (hkeep : KeepsTo budget t.attempts t.outcome) (hkeep' : KeepsTo budget t'.attempts t'.outcome)
    (ha : a ∈ t.attempts) (hanswer : a.answer? = some reply) :
    ∃ c next more, a.connection? = some c ∧ t'.attempts = .onLive c next :: more := by
  obtain ⟨earlier, later, hsplit⟩ := List.append_of_mem ha
  obtain ⟨rfl, -⟩ := hkeep.answered earlier a later reply hsplit hanswer
  obtain ⟨b, more, hmore⟩ := hkeep'.exists_cons
  obtain ⟨c, hconnection, hlive⟩ := live_of_answer hanswer
  have hall : attemptsOf (before ++ t :: t' :: after) =
      (attemptsOf before ++ earlier) ++ a :: (b :: (more ++ attemptsOf after)) := by
    simp [attemptsOf, hsplit, hmore]
  rw [hall, follow_append] at hfollow
  have hfits : b.Fits (some c) := hlive ▸ hfollow.2.2.1
  cases b with
  | onLive c' next =>
    obtain rfl : c = c' := Option.some.inj hfits
    exact ⟨c, next, more, hconnection, hmore⟩
  | refused f => cases hfits
  | onNew c' next => cases hfits

/-! ### The first connection -/

/-- Dials in vain, with a pause after each of them. -/
def dialsInVain (faults : List Failure) : List (Exchange (Redial κ)) :=
  faults.flatMap fun f => [⟨.dial, .error f⟩, ⟨.pause, .ok ()⟩]

/-- How the first connection is made with so many dials: by the first one that succeeds, or not at
all after all of them, and then the failure tells a total and the last one. -/
inductive Connects (total n : Nat) (asked : List (Exchange (Redial κ))) (o : Outcome κ)
    (left : Option κ) : Prop
  | dialled (faults : List Failure) (c : κ) (within : faults.length < n)
      (asked_eq : asked = dialsInVain faults ++ [⟨.dial, .ok c⟩, ⟨.install c, c⟩])
      (outcome_eq : o = .ok c) (left_eq : left = some c)
  | spent (faults : List Failure) (last : Failure) (all : faults.length + 1 = n)
      (asked_eq : asked = dialsInVain faults ++ [⟨.dial, .error last⟩])
      (outcome_eq : o = .error (.transport
        ("dial failed after " ++ toString total ++ " attempts: " ++ last.message)))
      (left_eq : left = none)

theorem connectWithin_succ {κ : Type} (total n : Nat) (f : Failure) :
    (connectWithin total (n + 1) f : Script (Redial κ) κ) = .ask .dial fun
      | .ok c => inquire (.install c)
      | .error f =>
        if n = 0 then connectWithin total n f
        else .ask .pause fun _ => connectWithin total n f := by
  simp only [connectWithin, inquire, Script.bind_eq, Script.ask_bind, Script.done_bind]
  congr 1

theorem Alone.install_first (h : Alone r shared) (c : κ) (hnone : shared s = none) :
    (inquire (.install c)).exchanges r s = [⟨.install c, c⟩] ∧
      ((inquire (.install c)).run r s).1 = .ok c ∧
      shared ((inquire (.install c)).run r s).2 = some c := by
  obtain ⟨hinstalled, hlive⟩ := h.install s c
  rcases hinstall : r (.install c) s with ⟨kept, s'⟩
  rw [hinstall, hnone] at hinstalled hlive
  rw [show kept = c from hinstalled] at hinstall
  simp only [inquire, Script.exchanges, Script.run, hinstall, true_and]
  exact hlive

theorem Alone.connectWithin (h : Alone r shared) (total n : Nat) (f : Failure) (s : σ)
    (hnone : shared s = none) :
    Connects total (n + 1) ((connectWithin total (n + 1) f).exchanges r s)
      ((connectWithin total (n + 1) f).run r s).1
      (shared ((connectWithin total (n + 1) f).run r s).2) := by
  have hkept := h.dial s
  rcases hdial : r .dial s with ⟨dialled, s₁⟩
  rw [hdial, hnone] at hkept
  rw [connectWithin_succ, Script.exchanges, Script.run, hdial]
  cases dialled with
  | ok c =>
    obtain ⟨hasked, ho, hleft⟩ := h.install_first c hkept
    exact .dialled [] c (Nat.succ_pos n) (congrArg _ hasked) ho hleft
  | error f' =>
    cases n with
    | zero => exact .spent [] f' rfl rfl rfl hkept
    | succ n =>
      obtain ⟨hpaused, hleft⟩ := h.pause s₁
      rcases hpause : r .pause s₁ with ⟨paused, s₂⟩
      rw [hpause, hkept] at hleft
      rw [hpause] at hpaused
      obtain rfl : paused = .ok () := hpaused
      simp only [Nat.succ_ne_zero, if_false, Script.exchanges, Script.run, hpause]
      rcases h.connectWithin total n f' s₂ hleft with ⟨faults, c, within, hasked, ho, hlive⟩ |
          ⟨faults, last, all, hasked, ho, hlive⟩
      · exact .dialled (f' :: faults) c (Nat.succ_lt_succ within) (by rw [hasked]; rfl) ho hlive
      · exact .spent (f' :: faults) last (congrArg (· + 1) all) (by rw [hasked]; rfl) ho hlive

/-- A lone caller keeps to the budget of its policy. Each attempt at a call is a dial in vain or one
call, and it is the last if the call is answered by anything but the loss of the connection. That
answer is the outcome; without one the whole budget is used, and the outcome is the last failure. A
dial is made only where no connection is live, a connection that was lost is not used before it was
dialled once more, and a call after one that was answered begins on the connection of the answer.
The first connection is that of the first dial that succeeds within the budget. -/
theorem lone_caller_keeps_to_budget (h : Alone r shared) (p : RetryPolicy) :
    (∀ (requests : List (String × Json)) (s : σ),
      (∀ x ∈ (made r p requests s).1,
        (⟨.dial, .error .cancelled⟩ : Exchange (Redial κ)) ∉ x.asked) →
      ∃ history : List (Tried κ), (made r p requests s).1 = history.map Tried.made ∧
        (∀ t ∈ history, KeepsTo (max p.attempts 1) t.attempts t.outcome) ∧
        Follow (shared s) (attemptsOf history) ∧
        shared (made r p requests s).2 = liveAfter (shared s) (attemptsOf history) ∧
        (∀ before a between b after c,
          attemptsOf history = before ++ a :: (between ++ b :: after) → a.lost? = some c →
          b.connection? = some c → ∃ x ∈ between ++ [b], x.dialled? = some c) ∧
        ∀ before t t' after a reply, history = before ++ t :: t' :: after → a ∈ t.attempts →
          a.answer? = some reply →
          ∃ c next more, a.connection? = some c ∧ t'.attempts = .onLive c next :: more) ∧
    ∀ s, shared s = none →
      Connects (max p.attempts 1) (max p.attempts 1) ((connect p).exchanges r s)
        ((connect p).run r s).1 (shared ((connect p).run r s).2) := by
  refine ⟨?_, ?_⟩
  · intro requests s hdial
    obtain ⟨history, hsame, hkeep, hfollow, hleft⟩ := h.calls p requests s hdial
    refine ⟨history, hsame, hkeep, hfollow, hleft, ?_, ?_⟩
    · intro before a between b after c hsplit ha hb
      exact (hsplit ▸ hfollow).lost_unused ha hb
    · rintro before t t' after a reply rfl ha hanswer
      exact begins_on_live hfollow (hkeep t (by simp)) (hkeep t' (by simp)) ha hanswer
  · intro s hnone
    obtain ⟨n, hn⟩ := Nat.exists_eq_succ_of_ne_zero
      (Nat.ne_of_gt (Nat.lt_of_lt_of_le Nat.one_pos (Nat.le_max_right p.attempts 1)))
    rw [connect, RetryPolicy.budget, hn]
    exact h.connectWithin (n + 1) n .connectionLost s hnone

open Rehearsal

theorem current_dial (p : Peer) : p.dial.2.current = p.current := by
  unfold Peer.dial
  split <;> rfl

theorem current_reply (p : Peer) (c : Nat) : (p.reply c).2.current = p.current := by
  unfold Peer.reply
  split <;> rfl

/-- A rehearsed plugin that one caller, whose token is never cancelled, has for itself. -/
theorem alone_peer (pauseMs now : Nat) :
    Alone (Peer.handler pauseMs none now).atOnce Peer.current where
  current _ := ⟨rfl, rfl⟩
  dial p := current_dial p
  install _ _ := ⟨rfl, rfl⟩
  send p c _ _ := current_reply p c
  invalidate _ _ := rfl
  pause _ := ⟨rfl, rfl⟩

/-- A plugin that refuses the first dial. The first connection is lost by the first call, the second
one by the second call. -/
def shaky : Peer where
  dials := [{ outcome := .error (.transport "busy") },
    { outcome := .ok [{ outcome := .error .connectionLost }] },
    { outcome := .ok [{ outcome := .ok (.str "T-1") }, { outcome := .error .connectionLost }] }]

/-- Two calls on this plugin. The first one is answered by its third attempt; the second one begins
on the connection of the answer, loses it, and is refused two dials. -/
def shakyCalls : List (Tried Nat) :=
  [⟨"mail.Call", .null, [.refused (.transport "busy"), .onNew 2 (.error .connectionLost),
      .onNew 3 (.ok (.str "T-1"))], .ok (.str "T-1")⟩,
    ⟨"mail.Call", .null, [.onLive 3 (.error .connectionLost), .refused (.transport "refused"),
      .refused (.transport "refused")], .error (.transport "refused")⟩]

theorem shaky_keeps_to_budget :
    let calls := (made (Peer.handler 10 none 0).atOnce ⟨3, 10⟩
      [("mail.Call", .null), ("mail.Call", .null)] shaky).1
    calls = shakyCalls.map Tried.made ∧
      (∃ history : List (Tried Nat), calls = history.map Tried.made ∧
        (∀ t ∈ history, KeepsTo 3 t.attempts t.outcome) ∧ Follow none (attemptsOf history)) ∧
      Connects 3 3 ((connect ⟨3, 10⟩).exchanges (Peer.handler 10 none 0).atOnce shaky)
        (.ok 2) (some 2) := by
  have hcalls : (made (Peer.handler 10 none 0).atOnce ⟨3, 10⟩
      [("mail.Call", .null), ("mail.Call", .null)] shaky).1 = shakyCalls.map Tried.made := rfl
  have hdial : ∀ x ∈ (made (Peer.handler 10 none 0).atOnce ⟨3, 10⟩
      [("mail.Call", .null), ("mail.Call", .null)] shaky).1,
      (⟨.dial, .error .cancelled⟩ : Exchange (Redial Nat)) ∉ x.asked := by
    rw [hcalls]
    simp [shakyCalls, Tried.made, spell, spellMore, exchanges, sending, isLost,
      Failure.isConnectionLost]
  obtain ⟨hkeeps, hconnects⟩ := lone_caller_keeps_to_budget (alone_peer 10 0) ⟨3, 10⟩
  obtain ⟨history, hsame, hkeep, hfollow, -⟩ := hkeeps _ shaky hdial
  exact ⟨hcalls, ⟨history, hsame, hkeep, hfollow⟩, hconnects shaky rfl⟩

end TicketSync.Plugin.Redial
