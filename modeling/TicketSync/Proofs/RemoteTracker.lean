import TicketSync.Plugin.Link
import TicketSync.Proofs.FrameCodec
import TicketSync.Proofs.ScriptTrace

/-! # A remote tracker answers as the tracker that it stands for

An operation of a remote tracker goes out as one request line, is dispatched by its method to the
tracker that is served, and its answer comes back as one response line. Since every frame reads back
and no answer reads as a lost connection, the whole way is one question to the served tracker. -/
namespace TicketSync

namespace Plugin

/-! ### Methods -/

theorem splitMethod_joinMethod {tracker operation : String} (htracker : tracker ≠ "")
    (hoperation : operation ≠ "") (hpoint : '.' ∉ operation.toList) :
    splitMethod (joinMethod tracker operation) = some (tracker, operation) := by
  have hback : (joinMethod tracker operation).toList.reverse =
      operation.toList.reverse ++ '.' :: tracker.toList.reverse := by
    simp [joinMethod]
  have hplain : ∀ c ∈ operation.toList.reverse, decide (c ≠ '.') = true := by
    intro c hc
    refine decide_eq_true ?_
    rintro rfl
    exact hpoint (List.mem_reverse.mp hc)
  simp only [splitMethod, hback, List.dropWhile_append_of_pos hplain,
    List.takeWhile_append_of_pos hplain]
  simp [htracker, hoperation]

namespace Service.Question

/-- The operation of a question, as methods name it. -/
def operation : Question → String
  | call _ => callOperation
  | subscribe _ => subscribeOperation
  | unsubscribe _ => unsubscribeOperation
  | handleWebhook .. => handleWebhookOperation

/-- The parameters of a question. -/
def params : Question → Json
  | call r => r.toJson
  | subscribe r => r.toJson
  | unsubscribe ref => UnsubscribeParams.toJson ⟨ref⟩
  | handleWebhook x r => WebhookParams.toJson ⟨x, r⟩

/-- A question as it arrives: variables keep their names and values, without the mark that they have
been rendered. -/
def relayed : Question → Question
  | call r => call { r with vars := ⟨r.vars.values, false⟩ }
  | subscribe r => subscribe { r with vars := ⟨r.vars.values, false⟩ }
  | unsubscribe ref => unsubscribe ref
  | handleWebhook x r => handleWebhook x r

/-- The value that an operation gives. -/
abbrev Value : Question → Type
  | call _ => String
  | subscribe _ => String
  | unsubscribe _ => Unit
  | handleWebhook .. => Option Update

/-- The answer to a question as it arrived, as an outcome of the question. -/
def outcome : (q : Question) → q.relayed.Answer → Outcome q.Value
  | call _, a => a
  | subscribe _, a => a
  | unsubscribe _, a => a
  | handleWebhook .., a => a

/-- The JSON form of a value. -/
def result : (q : Question) → q.Value → Json
  | call _, s => .str s
  | subscribe _, s => .str s
  | unsubscribe _, _ => .null
  | handleWebhook .., u => updateResult u

/-- Times of creation that are read back from their texts. -/
def Dated : Question → Prop
  | handleWebhook x _ => x.Dated
  | _ => True

/-- The value of an answer in JSON. -/
def read : (q : Question) → Json → Outcome q.Value
  | call _, v => readResult Json.asText v
  | subscribe _, v => readResult Json.asText v
  | unsubscribe _, _ => .ok ()
  | handleWebhook .., v => readResult (Json.asOption Update.ofJson?) v

theorem operation_ne_empty (q : Question) : q.operation ≠ "" := by
  cases q <;> simp [operation, callOperation, subscribeOperation, unsubscribeOperation,
    handleWebhookOperation]

theorem point_not_mem_operation (q : Question) : '.' ∉ q.operation.toList := by
  cases q <;> simp [operation, callOperation, subscribeOperation, unsubscribeOperation,
    handleWebhookOperation]

theorem fits_params (q : Question) : q.params.Fits innerDepth := by
  cases q with
  | call r => exact r.fits_toJson 124
  | subscribe r => exact r.fits_toJson 124
  | unsubscribe ref => exact UnsubscribeParams.fits_toJson _ 125
  | handleWebhook x r => exact WebhookParams.fits_toJson _ 123

theorem fits_result (q : Question) (x : q.Value) : (q.result x).Fits innerDepth := by
  cases q with
  | call r => simp [result, Json.Fits]
  | subscribe r => simp [result, Json.Fits]
  | unsubscribe ref => simp [result, Json.Fits]
  | handleWebhook y r =>
    cases x with
    | none => simp [result, updateResult, Json.Fits]
    | some u => exact u.fits_toJson 124

/-- A value is read back from the normal form of its JSON form. -/
theorem read_result (q : Question) (x : q.Value) : q.read (q.result x).normal = .ok x := by
  cases q with
  | call r => rfl
  | subscribe r => rfl
  | unsubscribe ref => rfl
  | handleWebhook y r =>
    cases x with
    | none => rfl
    | some u =>
      have hobj : ∃ fields, u.toJson.normal = .obj fields := ⟨_, rfl⟩
      have hread := u.ofJson?_normal
      obtain ⟨fields, hfields⟩ := hobj
      rw [hfields] at hread
      simp [read, result, updateResult, readResult, hfields, Json.asOption, hread, Except.map]

end Service.Question

/-! ### One call over the connection -/

namespace Service

theorem readParams_of_ok {α : Type} {read : Json → Decoded α} {v : Json} {x : α}
    (h : read v = .ok x) : readParams read v = .done x := by
  simp [readParams, h]

/-- A question to the tracker that is served, from its JSON form to that of its answer. -/
theorem operate_eq (name : String) {q : Question} (hq : q.Dated) :
    operate name q.operation q.params.normal =
      .ask q.relayed fun a => (Script.ofOutcome (q.outcome a)).bind fun x => .done (q.result x) := by
  cases q with
  | call r =>
    have hread := readParams_of_ok r.ofJson?_normal
    simp only [operate, Question.operation, if_true, Question.params, hread]
    rfl
  | subscribe r =>
    have hread := readParams_of_ok r.ofJson?_normal
    have hcall : subscribeOperation ≠ callOperation := by decide
    simp only [operate, Question.operation, if_neg hcall, if_true, Question.params, hread]
    rfl
  | unsubscribe ref =>
    have hread := readParams_of_ok (UnsubscribeParams.ofJson?_normal ⟨ref⟩)
    have hcall : unsubscribeOperation ≠ callOperation := by decide
    have hsubscribe : unsubscribeOperation ≠ subscribeOperation := by decide
    simp only [operate, Question.operation, if_neg hcall, if_neg hsubscribe, if_true,
      Question.params, hread]
    rfl
  | handleWebhook x r =>
    have hread := readParams_of_ok (@WebhookParams.ofJson?_normal ⟨x, r⟩ hq)
    have hcall : handleWebhookOperation ≠ callOperation := by decide
    have hsubscribe : handleWebhookOperation ≠ subscribeOperation := by decide
    have hunsubscribe : handleWebhookOperation ≠ unsubscribeOperation := by decide
    simp only [operate, Question.operation, if_neg hcall, if_neg hsubscribe, if_neg hunsubscribe,
      if_true, Question.params, hread]
    rfl

/-- A request is performed for the tracker that is served, and for no other one. -/
theorem dispatch_eq {tracker : String} (htracker : tracker ≠ "") (served : String) {q : Question}
    (hq : q.Dated) :
    dispatch served (joinMethod tracker q.operation) q.params.normal =
      if tracker = served then
        .ask q.relayed fun a => (Script.ofOutcome (q.outcome a)).bind fun x => .done (q.result x)
      else .fail (.unsupportedMethod tracker q.operation) := by
  rw [dispatch, splitMethod_joinMethod htracker q.operation_ne_empty q.point_not_mem_operation]
  simp only [operate_eq served hq]

end Service

namespace Link

/-- The outcome of a request as its caller reads it from the response. -/
theorem readReply_respond {id : Nat} (hid : id < twoTo 64) {r : Outcome Json}
    (hr : ∀ v, r = .ok v → v.Fits innerDepth) :
    readReply id (Service.respond id r).line = (r.map Json.normal).mapError Failure.relayed := by
  cases r with
  | ok v =>
    obtain ⟨response, hread, hsame, houtcome⟩ := readLine?_success hid (hr v rfl)
    simp only [readReply, Service.respond, hread, hsame, if_true, houtcome]
    rfl
  | error f =>
    obtain ⟨response, hread, hsame, houtcome⟩ := readLine?_failure hid f
    simp only [readReply, Service.respond, hread, hsame, if_true, houtcome]
    rfl

/-- No failure that comes back over a connection says that the connection was lost. -/
theorem isLost_mapError_relayed (r : Outcome Json) :
    Redial.isLost (r.mapError Failure.relayed) = false := by
  cases r with
  | ok v => rfl
  | error f => cases f <;> rfl

theorem exchange_eq {tracker : String} (htracker : tracker ≠ "") (served : String) {id : Nat}
    (hid : id < twoTo 64) {q : Service.Question} (hq : q.Dated) :
    exchange served id (joinMethod tracker q.operation) q.params =
      if tracker = served then
        .ask q.relayed fun a => .done
          ((((q.outcome a).map q.result).map Json.normal).mapError Failure.relayed)
      else .done (.error (.unsupportedMethod tracker q.operation)) := by
  have hrequest :=
    @readLine?_request ⟨id, joinMethod tracker q.operation, q.params⟩ hid q.fits_params
  rw [exchange, Service.request?, hrequest]
  simp only [Service.dispatch_eq htracker served hq]
  split
  · simp only [Script.attempt, Script.bind_eq, Script.ask_bind]
    congr 1
    funext a
    have hfits : ∀ v, (q.outcome a).map q.result = .ok v → v.Fits innerDepth := by
      intro v hv
      cases ha : q.outcome a with
      | error f => simp [ha, Except.map] at hv
      | ok x =>
        rw [ha] at hv
        exact Except.ok.inj hv ▸ q.fits_result x
    rw [← readReply_respond hid hfits]
    cases q.outcome a <;> rfl
  · exact congrArg Script.done (readReply_respond hid (by simp))

/-- A call over a connection that stays up is sent once, whatever the policy for lost ones. -/
theorem carry_call (served : String) (id : Nat) (p : RetryPolicy) (method : String) (params : Json) :
    carry served id (Redial.call p method params) =
      (exchange served id method params).bind fun r =>
        carry served id (if Redial.isLost r then
          (Redial.inquire (.invalidate ())).bind fun _ =>
            Redial.retryWithin method params (p.budget - 1) .connectionLost
        else .ofOutcome r) := by
  simp only [carry, Redial.call, Redial.attempt, Redial.obtain, Redial.inquire, Script.bind_eq,
    Script.ask_bind, Script.done_bind, Script.pure_eq, Script.relay, answer, Script.bind_assoc]
  congr 1
  funext r
  by_cases hlost : Redial.isLost r = true
  · simp [hlost, Script.relay, answer]
  · simp [hlost]

end Link

namespace RemoteTracker

variable {κ : Type}

/-- What the caller asks of a remote tracker. -/
def perform (t : RemoteTracker) : (q : Service.Question) → Script (Redial κ) q.Value
  | .call r => t.call r
  | .subscribe r => t.subscribe r
  | .unsubscribe ref => t.unsubscribe ref
  | .handleWebhook x r => t.handleWebhook x r

theorem perform_eq (t : RemoteTracker) (q : Service.Question) :
    (t.perform q : Script (Redial κ) q.Value) =
      (Redial.call t.policy (joinMethod t.name q.operation) q.params).bind fun v =>
        .ofOutcome (q.read v) := by
  cases q <;> rfl

/-- An operation over a connection that stays up is one question to the served tracker. -/
theorem carry_perform {t : RemoteTracker} (hname : t.name ≠ "") (served : String) {id : Nat}
    (hid : id < twoTo 64) {q : Service.Question} (hq : q.Dated) :
    Link.carry served id (t.perform q) =
      if t.name = served then
        .ask q.relayed fun a => .ofOutcome ((q.outcome a).mapError Failure.relayed)
      else .fail (.unsupportedMethod t.name q.operation) := by
  have hcarry : Link.carry served id (t.perform q) =
      (Link.carry served id (Redial.call t.policy (joinMethod t.name q.operation) q.params)).bind
        fun v => .ofOutcome (q.read v) := by
    rw [perform_eq, Link.carry, Script.relay_bind]
    simp only [Script.relay_ofOutcome]
    rfl
  rw [hcarry, Link.carry_call, Link.exchange_eq hname served hid hq]
  split
  · simp only [Script.ask_bind, Script.done_bind, Link.isLost_mapError_relayed, Bool.false_eq_true,
      if_false, Link.carry, Script.relay_ofOutcome]
    congr 1
    funext a
    cases q.outcome a with
    | ok x => exact congrArg Script.ofOutcome (q.read_result x)
    | error f => rfl
  · rfl

/-- Whatever the tracker that is served does with a question, an operation of a remote tracker of
its name asks it this question once, with the same arguments, and gives what it answers, where a
failure is relayed. A remote tracker of another name is told so, and nobody is asked. -/
theorem remote_operation_asks_its_tracker_once {σ : Type} (tracker : Responder Service σ) (s : σ)
    {t : RemoteTracker} (hname : t.name ≠ "") (served : String) {id : Nat} (hid : id < twoTo 64)
    {q : Service.Question} (hq : q.Dated) :
    let script := Link.carry served id (t.perform q)
    let reply := tracker q.relayed s
    (served = t.name →
      script.exchanges tracker s = [⟨q.relayed, reply.1⟩] ∧
      script.run tracker s = ((q.outcome reply.1).mapError Failure.relayed, reply.2)) ∧
    (served ≠ t.name →
      script.exchanges tracker s = [] ∧
      script.run tracker s = (.error (.unsupportedMethod t.name q.operation), s)) := by
  intro script reply
  have hscript := carry_perform hname served hid hq
  refine ⟨?_, ?_⟩
  · intro hsame
    rw [if_pos hsame.symm] at hscript
    have hend : ∀ (r : Outcome q.Value) (s : σ),
        (Script.ofOutcome r : Script Service q.Value).exchanges tracker s = [] ∧
        (Script.ofOutcome r : Script Service q.Value).run tracker s = (r, s) := by
      intro r s
      cases r <;> exact ⟨rfl, rfl⟩
    have houtcome := hend ((q.outcome reply.1).mapError Failure.relayed) reply.2
    simp only [script, hscript, Script.exchanges, Script.run]
    exact ⟨congrArg _ houtcome.1, houtcome.2⟩
  · intro hother
    rw [if_neg (Ne.symm hother)] at hscript
    simp only [script, hscript]
    exact ⟨rfl, rfl⟩

/-- A board that has nothing to report and counts what it is asked. -/
def quietBoard : Responder Service Nat
  | .call _, n => (.ok "", n + 1)
  | .subscribe _, n => (.error (.notFound "board" "b1"), n + 1)
  | .unsubscribe _, n => (.ok (), n + 1)
  | .handleWebhook .., n => (.ok none, n + 1)

/-- A webhook request for the board. -/
def ping : Service.Question :=
  .handleWebhook
    { trackerName := "my.board", triggerName := "moved", baseUrl := "http://localhost",
      createdAt := ⟨951782399, 500000000⟩ }
    { method := "POST" }

theorem ping_dated : ping.Dated := by
  show Instant.parse? _ = _
  decide

theorem ping_asked_once :
    ("my.board" ≠ "" ∧ 7 < twoTo 64 ∧ ping.Dated) ∧
    (Link.carry "my.board" 7 (perform ⟨"my.board", {}⟩ ping)).run quietBoard 0 = (.ok none, 1) := by
  have hname : "my.board" ≠ "" := by decide
  have hid : 7 < twoTo 64 := by decide
  have hasked := remote_operation_asks_its_tracker_once quietBoard 0 (t := ⟨"my.board", {}⟩) hname
    "my.board" hid ping_dated
  exact ⟨⟨hname, hid, ping_dated⟩, (hasked.1 rfl).2⟩

end RemoteTracker

end Plugin
end TicketSync
