import TicketSync.Proofs.CallStages
import TicketSync.Proofs.FrameCodec

/-! # A call that is answered is not sent again

No response reads as a lost connection, whatever its code, message and data are and whatever failure
it was made from. A caller sends its call again only after its connection was lost, so a response is
the end of the call. -/
namespace TicketSync.Plugin

theorem Fault.toFailure_ne_connectionLost (f : Fault) : f.toFailure ≠ .connectionLost := by
  obtain ⟨code, message, data⟩ := f
  cases code <;> simp [toFailure]

theorem Response.outcome_ne_connectionLost (r : Response) : r.outcome ≠ .error .connectionLost := by
  obtain ⟨id, result, fault⟩ := r
  cases fault with
  | none => simp [outcome]
  | some f => simpa [outcome] using f.toFailure_ne_connectionLost

namespace Redial

variable {κ : Type} {method : String} {params : Json}

theorem isLost_iff {r : Outcome Json} : isLost r = true ↔ r = .error .connectionLost := by
  cases r with
  | ok v => simp [isLost]
  | error f => cases f <;> simp [isLost, Failure.isConnectionLost]

theorem isLost_outcome (r : Response) : isLost r.outcome = false := by
  rw [← Bool.not_eq_true, isLost_iff]
  exact r.outcome_ne_connectionLost

/-- An exchange in which a call was sent on a connection and a response came back. -/
def Answered (r : Response) (x : Exchange (Redial κ)) : Prop :=
  ∃ c m v, x = ⟨.send c m v, r.outcome⟩

/-- A call, sent and sent again, up to its first response: the response ends it, and it went out
again only after an attempt that was lost without one. -/
structure SentUntilAnswered (method : String) (params : Json) (xs : List (Exchange (Redial κ)))
    (rest : Script (Redial κ) Json) : Prop where
  same : ∀ c m v a, (⟨.send c m v, a⟩ : Exchange (Redial κ)) ∈ xs → m = method ∧ v = params
  settled : ∀ ys x zs r, xs = ys ++ x :: zs → Answered r x → zs = [] ∧ rest = .ofOutcome r.outcome
  repeated : ∀ ys c m v a zs, xs = ys ++ ⟨.send c m v, a⟩ :: zs → zs ≠ [] →
    a = .error .connectionLost ∧ ∀ r, ¬ Answered r (⟨.send c m v, a⟩ : Exchange (Redial κ))

/-- Once a call on a connection has ended other than by its loss, nothing more is asked. -/
theorem At.settled {n : Nat} {stage : Stage κ} {s s' : Script (Redial κ) Json}
    {ys zs : List (Exchange (Redial κ))} {c : κ} {m : String} {v : Json} {a : Outcome Json}
    (h : At method params n stage s) (hleads : s.Leads (ys ++ ⟨.send c m v, a⟩ :: zs) s') :
    m = method ∧ v = params ∧ (isLost a = false → zs = [] ∧ s' = .ofOutcome a) := by
  obtain ⟨next, hbefore, hafter⟩ := hleads.split
  obtain ⟨n', stage', hat⟩ := h.leads hbefore
  obtain ⟨hm, hv, hend⟩ := hat.sent
  refine ⟨hm, hv, fun ha => ?_⟩
  rw [hend a ha] at hafter
  exact Script.leads_ofOutcome_iff.mp hafter

theorem At.sentUntilAnswered {n : Nat} {stage : Stage κ} {s s' : Script (Redial κ) Json}
    {xs : List (Exchange (Redial κ))} (h : At method params n stage s) (hleads : s.Leads xs s') :
    SentUntilAnswered method params xs s' where
  same c m v a hmem := by
    obtain ⟨ys, zs, rfl⟩ := List.append_of_mem hmem
    obtain ⟨hm, hv, -⟩ := h.settled hleads
    exact ⟨hm, hv⟩
  settled := by
    rintro ys x zs r rfl ⟨c, m, v, rfl⟩
    exact (h.settled hleads).2.2 (isLost_outcome r)
  repeated := by
    rintro ys c m v a zs rfl hzs
    have hlost : isLost a = true := by
      rw [← Bool.not_eq_false]
      intro ha
      exact hzs ((h.settled hleads).2.2 ha).1
    refine ⟨isLost_iff.mp hlost, ?_⟩
    rintro r ⟨c', m', v', heq⟩
    cases heq
    rw [isLost_outcome] at hlost
    cases hlost

/-- An answered call is never sent again. No response reads as a lost connection, also not one that
was made from any failure of the other side and went over the line. So whatever the connections do,
a call goes out again only after an attempt that was lost without a response, and the first response
is the last that happens in the call and its outcome. -/
theorem answered_call_is_never_sent_again :
    (∀ r : Response, r.outcome ≠ .error .connectionLost) ∧
    (∀ id f, id < twoTo 64 →
      ∃ r, readLine? Response.ofJson? (Response.failure id f).line = some r ∧ r.id = id ∧
        r.outcome = .error f.relayed ∧ f.relayed ≠ .connectionLost) ∧
    (∀ (κ : Type) p method params xs (rest : Script (Redial κ) Json),
      (call p method params).Leads xs rest → SentUntilAnswered method params xs rest) ∧
    ∀ (κ σ : Type) (connections : Responder (Redial κ) σ) p method params state,
      let script : Script (Redial κ) Json := call p method params
      ∀ x ∈ script.exchanges connections state, ∀ r, Answered r x →
        (script.exchanges connections state).getLast? = some x ∧
        (script.run connections state).1 = r.outcome := by
  refine ⟨Response.outcome_ne_connectionLost, ?_, ?_, ?_⟩
  · intro id f hid
    obtain ⟨r, hread, hsame, houtcome⟩ := readLine?_failure hid f
    refine ⟨r, hread, hsame, houtcome, ?_⟩
    intro hlost
    apply r.outcome_ne_connectionLost
    rw [houtcome, hlost]
  · intro κ p method params xs rest hleads
    exact (at_call p method params).sentUntilAnswered hleads
  · intro κ σ connections p method params state script x hx r hr
    obtain ⟨ys, zs, hxs⟩ := List.append_of_mem hx
    have hsent := (at_call p method params).sentUntilAnswered
      (Script.leads_exchanges connections script state)
    obtain ⟨rfl, hend⟩ := hsent.settled ys x zs r hxs hr
    refine ⟨?_, Script.ofOutcome_inj.mp hend⟩
    rw [hxs, List.getLast?_append, List.getLast?_singleton, Option.some_or]

/-- Connections of which the first is lost by the first call, while the next one answers that there
is no such object. -/
def relapsing : Responder (Redial Nat) (Option Nat)
  | .current, shared => (shared, shared)
  | .dial, shared => (.ok 1, shared)
  | .install c, shared => (keep shared c, some (keep shared c))
  | .send c _ _, shared =>
    (if c = 0 then .error .connectionLost
      else (Response.failure 1 (.notFound "ticket" "A-1")).outcome, shared)
  | .invalidate c, shared => ((), drop shared c)
  | .pause, shared => (.ok (), shared)

/-- A call with two more attempts after the first. -/
def patientCall : Script (Redial Nat) Json := call ⟨3, 10⟩ "mail.Call" .null

/-- The third attempt is not made. -/
theorem relapsing_answers_patientCall :
    (∃ r, readLine? Response.ofJson? (Response.failure 1 .connectionLost).line = some r ∧ r.id = 1 ∧
      r.outcome = .error Failure.connectionLost.relayed ∧
      Failure.connectionLost.relayed ≠ .connectionLost) ∧
    (patientCall.exchanges relapsing (some 0)).map (·.question) =
      [.current, .send 0 "mail.Call" .null, .invalidate 0, .pause, .current, .dial, .install 1,
        .send 1 "mail.Call" .null] ∧
    SentUntilAnswered "mail.Call" .null (patientCall.exchanges relapsing (some 0))
      (.ofOutcome (patientCall.run relapsing (some 0)).1) ∧
    (patientCall.run relapsing (some 0)).1 =
      (Response.failure 1 (.notFound "ticket" "A-1")).outcome := by
  obtain ⟨-, hwire, hleads, hrun⟩ := answered_call_is_never_sent_again
  refine ⟨hwire 1 .connectionLost (by decide), rfl,
    hleads Nat ⟨3, 10⟩ "mail.Call" .null _ _ (Script.leads_exchanges relapsing _ _), ?_⟩
  have hlast : (⟨.send 1 "mail.Call" .null,
      (Response.failure 1 (.notFound "ticket" "A-1")).outcome⟩ : Exchange (Redial Nat)) ∈
      patientCall.exchanges relapsing (some 0) :=
    List.mem_of_getElem? (i := 7) rfl
  exact (hrun Nat (Option Nat) relapsing ⟨3, 10⟩ "mail.Call" .null (some 0) _ hlast _
    ⟨1, "mail.Call", .null, rfl⟩).2

end Redial
end TicketSync.Plugin
