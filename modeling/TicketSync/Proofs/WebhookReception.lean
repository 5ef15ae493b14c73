import TicketSync.Proofs.ListenerFrame

/-! # What becomes of a request, and what trackers are given

A request is answered by what its id resolves to, which no listener changes. What a tracker was given
to read stands in the log, and only the question that gives it writes it there. -/
namespace TicketSync.Engine

variable {τ : Type}

/-! ### Requests -/

/-- What the store answers to a look-up of a subscription. -/
def Session.lookup (s : Session τ) (id : String) : Outcome Subscription :=
  if StoreOperation.getSubscription.word ∈ s.world.faults then .error (World.fault .getSubscription)
  else s.world.store.getSubscription id

/-- What becomes of a request: it is for the subscription that its id resolves to, unless its body
is too large. -/
def Session.reception (s : Session τ) (h : HttpRequest) : Reception :=
  match h.route with
  | .unknown => .unknownPath
  | .wrongMethod => .wrongMethod
  | .unreadable => .unreadablePath
  | .hook id =>
    if bodyLimit < h.body.length then .tooLarge
    else
      match s.lookup id with
      | .ok x => .accepted x h.toWebhook
      | .error f => if f.isNotFound then .dropped else .broken f

/-- The look-up that the endpoint makes, and the world after it. -/
theorem findSubscription_atOnce (s : Session τ) (id : String) :
    ((World.handler s.surroundings).atOnce (.findSubscription id) s.world).1 = s.lookup id ∧
    (((World.handler s.surroundings).atOnce (.findSubscription id) s.world).2 = s.world ∨
      s.lookup id = .error (World.fault .getSubscription)) := by
  have hguarded : (World.handler s.surroundings).atOnce (.findSubscription id) s.world =
      s.world.guarded .getSubscription fun w => (w.store.getSubscription id, w) := rfl
  rw [hguarded, World.guarded, Session.lookup]
  split
  · exact ⟨rfl, .inr rfl⟩
  · exact ⟨rfl, .inl rfl⟩

/-- The endpoint never fails of its own, and a request leaves its session as it is unless the store
is made to fail. -/
theorem perform_receive (s : Session τ) (h : HttpRequest) :
    (s.perform (receive h)).1 = .ok (s.reception h) ∧
      ((s.perform (receive h)).2 = s ∨
        s.reception h = .broken (World.fault .getSubscription)) := by
  unfold receive Session.reception
  cases h.route with
  | unknown => exact ⟨rfl, .inl rfl⟩
  | wrongMethod => exact ⟨rfl, .inl rfl⟩
  | unreadable => exact ⟨rfl, .inl rfl⟩
  | hook id =>
    by_cases hlarge : bodyLimit < h.body.length
    · simp only [HttpRequest.isTooLarge, hlarge, decide_true, if_true]
      exact ⟨rfl, .inl rfl⟩
    obtain ⟨hanswer, hworld⟩ := findSubscription_atOnce s id
    simp only [HttpRequest.isTooLarge, hlarge, decide_false, Bool.false_eq_true, if_false,
      Session.perform, inquire, Script.bind_eq, Script.ask_bind, Script.done_bind, Script.run]
    generalize (World.handler s.surroundings).atOnce (.findSubscription id) s.world = answered at *
    obtain ⟨a, w⟩ := answered
    subst hanswer
    have hsame : w = s.world → { s with world := w } = s := by
      rintro rfl
      rfl
    cases hlookup : s.lookup id with
    | ok x =>
      rcases hworld with hworld | hfault
      · exact ⟨rfl, .inl (hsame hworld)⟩
      · cases hlookup.symm.trans hfault
    | error f =>
      rcases hworld with hworld | hfault
      · exact ⟨rfl, .inl (hsame hworld)⟩
      · cases hlookup.symm.trans hfault
        exact ⟨rfl, .inr rfl⟩

theorem Session.Agrees.reception {s s' : Session τ} (h : s.Agrees s') (r : HttpRequest) :
    s'.reception r = s.reception r := by
  have hlookup : ∀ id, s'.lookup id = s.lookup id := by
    intro id
    simp only [Session.lookup, Store.getSubscription_eq, h.rows.rows, h.rows.faults]
  simp only [Session.reception, hlookup]

/-- Whether a question gives a tracker a delivery to read. -/
def Question.isPass : Question → Bool
  | .handleWebhook .. => true
  | _ => false

namespace World

variable {α : Type} {e : Surroundings τ} {w w' : World τ}

/-- The deliveries that a tracker was given to read, in order. -/
def passed (w : World τ) (tracker : String) : List Delivery :=
  w.log.filterMap fun
    | .passed t x r => if t = tracker then some ⟨x, r⟩ else none
    | _ => none

/-- Worlds in which every tracker was given the same. -/
def SamePassed (w w' : World τ) : Prop := ∀ tracker, w'.passed tracker = w.passed tracker

theorem SamePassed.of_log (h : w'.log = w.log) : w.SamePassed w' := by
  intro tracker
  rw [passed, h, passed]

theorem samePassed_guarded (w : World τ) (op : StoreOperation)
    {run : World τ → Outcome α × World τ} (h : w.SamePassed (run w).2) :
    w.SamePassed (w.guarded op run).2 := by
  refine guarded_elim (p := fun r => w.SamePassed r.2) w op ?_ h
  intro tracker
  simp [passed, note]

theorem samePassed_keep {op : StoreOperation} {id : String} (r : Outcome Store) :
    w.SamePassed ((w.note (.wrote op id)).keep r).2 := by
  intro tracker
  cases r <;> simp [passed, note, keep]

theorem handler_samePassed {q : Question} (hq : q.isPass = false) (w : World τ) :
    w.SamePassed (handler e q w).2 ∧
      ∀ w' : World τ, w'.SamePassed ((handler e q w).1.finish w').2 := by
  have hsame : ∀ w : World τ, w.SamePassed w := fun _ _ => rfl
  cases q with
  | isCancelled => exact ⟨hsame w, hsame⟩
  | now => exact ⟨hsame w, hsame⟩
  | condition text u t => exact ⟨hsame w, hsame⟩
  | render vars u t => exact ⟨hsame w, hsame⟩
  | findTicket q => exact ⟨samePassed_guarded w _ (hsame w), hsame⟩
  | createTicket t =>
    refine ⟨samePassed_guarded w _ ?_, hsame⟩
    cases hc : w.store.createTicket (e.ticketId (w.tickets + 1)) t <;>
      simp [SamePassed, passed, note]
  | updateTicket t => exact ⟨samePassed_guarded w _ (samePassed_keep _), hsame⟩
  | createSubscription x =>
    refine ⟨samePassed_guarded w _ ?_, hsame⟩
    cases hc : w.store.createSubscription (e.subscriptionId (w.subscriptions + 1)) x <;>
      simp [SamePassed, passed, note]
  | updateSubscription x => exact ⟨samePassed_guarded w _ (samePassed_keep _), hsame⟩
  | findSubscription id => exact ⟨samePassed_guarded w _ (hsame w), hsame⟩
  | deleteSubscription id => exact ⟨samePassed_guarded w _ (samePassed_keep _), hsame⟩
  | listSubscriptions tracker => exact ⟨samePassed_guarded w _ (hsame w), hsame⟩
  | isRegistered tracker => exact ⟨hsame w, hsame⟩
  | call tracker r =>
    exact ⟨fun _ => by simp [handler, reply, passed, note], fun _ => .of_log rfl⟩
  | subscribe tracker r =>
    exact ⟨fun _ => by simp [handler, reply, passed, note], fun _ => .of_log rfl⟩
  | unsubscribe tracker ref =>
    exact ⟨fun _ => by simp [handler, reply, passed, note], fun _ => .of_log rfl⟩
  | handleWebhook tracker x r => cases hq

/-- Questions that give no tracker anything to read leave what was given as it is. -/
theorem respects_passed (e : Surroundings τ) :
    (handler e).Respects (fun q => q.isPass = false) SamePassed where
  refl _ _ := rfl
  trans h h' tracker := (h' tracker).trans (h tracker)
  asked _ w hq := (handler_samePassed hq w).1
  answered _ w w' hq := (handler_samePassed hq w).2 w'

/-- The question that gives a tracker a delivery is what it is given by. -/
theorem passed_handleWebhook (e : Surroundings τ) (tracker : String) (x : Subscription)
    (r : WebhookRequest) (w : World τ) :
    (∀ other, (handler e (.handleWebhook tracker x r) w).2.passed other =
      w.passed other ++ if tracker = other then [⟨x, r⟩] else []) ∧
    ∀ w' : World τ, w'.SamePassed ((handler e (.handleWebhook tracker x r) w).1.finish w').2 := by
  refine ⟨fun other => ?_, fun _ => .of_log rfl⟩
  simp only [handler, reply, passed, note, List.filterMap_append]
  split <;> simp_all

end World

theorem OfRun.isPass {q : Dialogue.Question Engine} (h : OfRun q) : Question.isPass q = false := by
  cases q <;> first | rfl | cases h

end TicketSync.Engine
