import TicketSync.Proofs.ClockMoments
import TicketSync.Proofs.SessionStore

/-! # Registrations and removals on the clock

A registration waits for its tracker once, and so does a removal. So all of them come to their end
on the clock, where the trackers answer in time, and they come there by turns of a pool. Nothing
that they ask depends on whether the token is cancelled. -/
namespace TicketSync

/-! ### Turns that leave a part of the state alone -/

section Apart

variable {D : Dialogue} {σ α : Type} {h : Handler D σ} {p : D.Question → Prop} {f : σ → σ}

/-- Surroundings for which questions of a kind have nothing to do with what a change of the state
changes. -/
structure Handler.Apart (h : Handler D σ) (p : D.Question → Prop) (f : σ → σ) : Prop where
  asked : ∀ q s, p q → h q (f s) = ((h q s).1, f (h q s).2)
  answered : ∀ q s, p q → ∀ s', (h q s).1.finish (f s') =
    (((h q s).1.finish s').1, f ((h q s).1.finish s').2)

theorem Handler.Apart.atOnce (hh : h.Apart p f) {q : D.Question} (hq : p q) (s : σ) :
    h.atOnce q (f s) = ((h.atOnce q s).1, f (h.atOnce q s).2) := by
  simp only [Handler.atOnce, hh.asked q s hq]
  exact hh.answered q s hq _

/-- A task that has nothing to do with a change of the state. -/
def Task.Apart (p : D.Question → Prop) (f : σ → σ) : Task D σ α → Prop
  | .ready script => script.Asks p
  | .waiting _ answer next =>
    (∀ s, answer.finish (f s) = ((answer.finish s).1, f (answer.finish s).2)) ∧
      ∀ a, (next a).Asks p

theorem Task.Apart.step {t : Task D σ α} (ht : t.Apart p f) (hh : h.Apart p f) (s : σ) :
    t.step h (f s) = ((t.step h s).1, f (t.step h s).2) ∧ (t.step h s).1.Apart p f := by
  cases t with
  | ready script =>
    cases script with
    | done x => exact ⟨rfl, trivial⟩
    | fail e => exact ⟨rfl, trivial⟩
    | ask q next =>
      have hanswered := hh.answered q s ht.1
      simp only [Task.step, hh.asked q s ht.1]
      split
      · exact ⟨congrArg (fun y => (ready (next y.1), y.2)) (hanswered _), ht.2 _⟩
      · exact ⟨rfl, hanswered, ht.2⟩
  | waiting q answer next => exact ⟨by simp only [Task.step, ht.1 s], ht.2 _⟩

theorem Gathering.Comes.apart {g : Gathering} {x y : Pool D σ α × σ} (hcomes : g.Comes h x y)
    (hh : h.Apart p f) (hx : ∀ t ∈ x.1, t.Apart p f) :
    g.Comes h (x.1, f x.2) (y.1, f y.2) ∧ ∀ t ∈ y.1, t.Apart p f := by
  induction hcomes with
  | refl => exact ⟨.refl, hx⟩
  | @turn y i before goes ih =>
    obtain ⟨hcomes, hy⟩ := ih
    have hturn := hcomes.turn i goes
    cases hi : y.1[i]? with
    | none =>
      simp only [Pool.step, hi] at hturn ⊢
      exact ⟨hturn, hy⟩
    | some t =>
      obtain ⟨hstep, ht⟩ := (hy t (List.mem_of_getElem? hi)).step hh y.2
      rw [Pool.step_of_getElem? hi] at hturn ⊢
      rw [hstep] at hturn
      exact ⟨hturn, fun t' ht' => (List.mem_or_eq_of_mem_set ht').elim (hy t') (· ▸ ht)⟩

end Apart

namespace Engine

variable {τ : Type}

/-! ### What registrations and removals wait for -/

/-- Whether a question goes to a tracker, which answers in its own time. -/
def Question.asksTracker : Question → Bool
  | .call .. | .subscribe .. | .unsubscribe .. | .handleWebhook .. => true
  | _ => false

/-- Whether a question asks for a subscription at a tracker. -/
def Question.subscribes : Question → Bool
  | .subscribe .. => true
  | _ => false

theorem World.handler_prompt (e : Surroundings τ) :
    (World.handler e).Prompt fun q => Question.asksTracker q = false := by
  intro q w hq
  cases q <;> first | rfl | cases hq

/-- The world with its token cancelled, if so. -/
def World.revoke (cancels : Bool) (w : World τ) : World τ :=
  { w with isCancelled := w.isCancelled || cancels }

theorem World.guarded_revoke {α : Type} {cancels : Bool} {run : World τ → Outcome α × World τ}
    (hrun : ∀ w, run (w.revoke cancels) = ((run w).1, (run w).2.revoke cancels))
    (op : StoreOperation) (w : World τ) :
    (w.revoke cancels).guarded op run =
      ((w.guarded op run).1, (w.guarded op run).2.revoke cancels) := by
  unfold World.guarded
  change (if op.word ∈ w.faults then _ else run (w.revoke cancels)) = _
  split
  · rfl
  · exact hrun w

theorem World.keep_revoke (cancels : Bool) (w : World τ) (r : Outcome Store) :
    (w.revoke cancels).keep r = ((w.keep r).1, (w.keep r).2.revoke cancels) := by
  cases r <;> rfl

theorem World.createTicket_revoke (e : Surroundings τ) (cancels : Bool) (t : Ticket) (w : World τ) :
    (w.revoke cancels).createTicket e t =
      ((w.createTicket e t).1, (w.createTicket e t).2.revoke cancels) := by
  refine World.guarded_revoke (fun w => ?_) _ w
  cases hcreated : w.store.createTicket (e.ticketId (w.tickets + 1)) t <;>
    simp [World.revoke, World.note, hcreated]

theorem World.createSubscription_revoke (e : Surroundings τ) (cancels : Bool) (x : Subscription)
    (w : World τ) : (w.revoke cancels).createSubscription e x =
      ((w.createSubscription e x).1, (w.createSubscription e x).2.revoke cancels) := by
  refine World.guarded_revoke (fun w => ?_) _ w
  cases hcreated : w.store.createSubscription (e.subscriptionId (w.subscriptions + 1)) x <;>
    simp [World.revoke, World.note, hcreated]

theorem World.written_revoke {cancels : Bool} {r : World τ → Outcome Store}
    (hr : ∀ w, r (w.revoke cancels) = r w) (op : StoreOperation) (x : Event) (w : World τ) :
    (w.revoke cancels).guarded op (fun w => (w.note x).keep (r w)) =
      ((w.guarded op fun w => (w.note x).keep (r w)).1,
        (w.guarded op fun w => (w.note x).keep (r w)).2.revoke cancels) := by
  refine World.guarded_revoke (fun w => ?_) op w
  rw [hr]
  exact World.keep_revoke cancels (w.note x) (r w)

theorem World.atOnce_revoke {β : Type} {cancels : Bool} {y y' : β × World τ}
    (hy : y' = (y.1, y.2.revoke cancels)) :
    World.atOnce y' = ((World.atOnce y).1, (World.atOnce y).2.revoke cancels) := by
  cases hy
  rfl

/-- Only the question for the token depends on whether it is cancelled. -/
theorem World.handler_apart (e : Surroundings τ) (cancels : Bool) :
    (World.handler e).Apart (fun q => q ≠ .isCancelled) (World.revoke cancels) := by
  refine ⟨fun q w hq => ?_, fun q w hq w' => ?_⟩
  · cases q with
    | isCancelled => exact absurd rfl hq
    | now | condition | render | isRegistered | call | subscribe | unsubscribe | handleWebhook => rfl
    | findTicket | findSubscription | listSubscriptions =>
      exact World.atOnce_revoke (World.guarded_revoke (fun _ => rfl) _ w)
    | updateTicket | updateSubscription | deleteSubscription =>
      exact World.atOnce_revoke (World.written_revoke (fun _ => rfl) _ _ w)
    | createTicket t => exact World.atOnce_revoke (World.createTicket_revoke e cancels t w)
    | createSubscription x => exact World.atOnce_revoke (World.createSubscription_revoke e cancels x w)
  · cases q with
    | call | subscribe | unsubscribe | handleWebhook =>
      simp only [World.handler, World.reply, World.revoke, Bool.or_right_comm]
    | _ => rfl

theorem waitsOnce_outcome {α β : Type} {prompt slow : Dialogue.Question Engine → Prop}
    {r : Outcome α} {f : α → Script Engine β} (hf : ∀ x, (f x).WaitsOnce prompt slow) :
    ((Script.ofOutcome r).bind f).WaitsOnce prompt slow :=
  (Script.asks_ofOutcome prompt r).waitsOnce_bind hf

theorem register_waitsOnce (baseUrl : String) (t : Trigger) :
    (register baseUrl t).WaitsOnce (fun q => Question.asksTracker q = false)
      (fun q => Question.subscribes q = true) := by
  refine Script.Asks.waitsOnce_bind (asks_requireTracker rfl) fun _ => ?_
  refine .ask rfl fun r => ?_
  refine waitsOnce_outcome (r := r) fun vars => ?_
  refine Script.Asks.waitsOnce_bind ⟨rfl, fun createdAt => ⟨rfl, fun r => ?_⟩⟩ fun x => ?_
  · exact asks_outcome (r := r) fun id => trivial
  · refine .wait rfl fun r => asks_outcome (r := r) fun ref => ?_
    refine Script.Asks.bind ?_ fun _ => trivial
    refine Script.Asks.bind ⟨rfl, fun r => Script.asks_ofOutcome _ r⟩ fun y => ?_
    exact ⟨rfl, fun r => asks_outcome (r := r) fun _ => trivial⟩

theorem remove_waitsOnce {slow : Dialogue.Question Engine → Prop} (x : Subscription)
    (hunsubscribe : ∀ ref, x.trackerRef = some ref → slow (.unsubscribe x.trackerName ref)) :
    (remove x).WaitsOnce (fun q => Question.asksTracker q = false) slow := by
  have hdiscard : (discard x.id).Asks fun q => Question.asksTracker q = false := discard_asks rfl
  unfold remove
  split
  · exact .prompt hdiscard
  · next ref href =>
    refine .ask rfl ?_
    rintro (_ | _)
    · exact .prompt trivial
    · refine .wait (hunsubscribe ref href) fun a => ?_
      cases h : isGone a with
      | true => simpa [h] using hdiscard
      | false => simp [h, Script.Asks]

theorem register_begins {σ : Type} (baseUrl : String) (t : Trigger) :
    (Task.ready (register baseUrl t) : Task Engine σ Unit).outcome? = none := rfl

theorem remove_begins {σ : Type} (x : Subscription) :
    (Task.ready (remove x) : Task Engine σ Bool).outcome? = none := by
  unfold remove
  split <;> rfl

/-- The registrations of a session, gathered on its clock. -/
def Session.registered (s : Session τ) : Gathered Engine (World τ) Unit :=
  Engine.registrations.run (fun _ _ => World.handler s.surroundings) s.config.triggers.length
    s.registrations s.clock s.world

theorem Session.register_eq (s : Session τ) :
    s.register = (match s.registered.failure? with | some f => .error f | none => .ok (),
      { s with world := s.registered.state, clock := s.registered.now }) := by
  have hends : ∀ (x : Gathered Engine (World τ) Unit) (s' : Session τ),
      (match x.failure? with | some f => (Except.error f, s') | none => (.ok (), s')) =
        (match x.failure? with | some f => .error f | none => .ok (), s') := by
    intro x s'
    cases x.failure? <;> rfl
  exact hends s.registered { s with world := s.registered.state, clock := s.registered.now }

theorem Session.registered_settled (s : Session τ)
    (hanswers : (World.handler s.surroundings).Answers fun q => Question.subscribes q = true) :
    Engine.registrations.Settled s.registered := by
  have hwaits : ∀ script ∈ s.registrations, script.WaitsOnce
      (fun q => Question.asksTracker q = false) (fun q => Question.subscribes q = true) := by
    intro script hscript
    obtain ⟨t, -, rfl⟩ := List.mem_map.mp hscript
    exact register_waitsOnce s.baseUrl t
  exact Gathering.run_settled _ _ _ _ rfl hwaits (World.handler_prompt _)
    (by simp [Session.registrations]) fun _ => hanswers

theorem Session.registered_mirrors (s : Session τ) :
    ∃ pool, Engine.registrations.Comes (World.handler s.surroundings)
        (s.registrations.map .ready, s.world) (pool, s.registered.state) ∧
      Engine.registrations.Mirrors [] [] [] s.registered pool := by
  refine Gathering.run_mirrors _ _ _ _ _ _ rfl fun script hscript => ?_
  obtain ⟨t, -, rfl⟩ := List.mem_map.mp hscript
  exact register_begins s.baseUrl t

/-- The removals of subscriptions that a session has listed for a tracker, gathered on its clock. -/
def Session.removing (s : Session τ) (tracker : String) (xs : List Subscription) :
    Gathered Engine (World τ) Bool :=
  removals.run (fun _ _ => World.handler s.surroundings) xs.length (xs.map Engine.remove) s.clock
    (s.listingOf tracker).2

theorem Session.remove_eq_removing (s : Session τ) (tracker : String) :
    (s.remove tracker).1 = (match (s.listingOf tracker).1 with
      | .ok xs => removed (s.removing tracker xs)
      | .error _ => 0) ∧
    (s.remove tracker).2.world = (match (s.listingOf tracker).1 with
      | .ok xs => (s.removing tracker xs).state
      | .error _ => (s.listingOf tracker).2) := by
  unfold Session.remove
  rw [Session.perform_listingOf]
  cases hlisted : (s.listingOf tracker).1 <;> exact ⟨rfl, rfl⟩

/-- Whether a question asks to drop the webhook of one of some subscriptions. -/
def Drops (xs : List Subscription) (q : Dialogue.Question Engine) : Prop :=
  ∃ x ∈ xs, ∃ ref, x.trackerRef = some ref ∧ q = .unsubscribe x.trackerName ref

theorem remove_waits (xs : List Subscription) : ∀ script ∈ xs.map Engine.remove, script.WaitsOnce
    (fun q => Question.asksTracker q = false) (Drops xs) := by
  intro script hscript
  obtain ⟨x, hx, rfl⟩ := List.mem_map.mp hscript
  exact remove_waitsOnce x fun ref href => ⟨x, hx, ref, href, rfl⟩

theorem Session.removing_settled (s : Session τ) (tracker : String) (xs : List Subscription) :
    removals.Settled (s.removing tracker xs) :=
  Gathering.run_settled _ _ _ _ rfl (remove_waits xs) (World.handler_prompt _) (by simp)
    fun hnone => absurd hnone (Option.some_ne_none _)

theorem Session.removing_mirrors (s : Session τ) (tracker : String) (xs : List Subscription) :
    ∃ pool, removals.Comes (World.handler s.surroundings)
        ((xs.map Engine.remove).map .ready, (s.listingOf tracker).2)
        (pool, (s.removing tracker xs).state) ∧
      removals.Mirrors [] [] [] (s.removing tracker xs) pool := by
  refine Gathering.run_mirrors _ _ _ _ _ _ rfl fun script hscript => ?_
  obtain ⟨x, -, rfl⟩ := List.mem_map.mp hscript
  exact remove_begins x

/-- Removals that come to their end in time report as many as have ended with yes. -/
theorem removed_of_in_time {x : Gathered Engine (World τ) Bool} {pool : Pool Engine (World τ) Bool}
    (hsettled : removals.Settled x) (hmirrors : removals.Mirrors [] [] [] x pool)
    (htimed : x.timedOut = false) : removed x = pool.confirmed := by
  obtain ⟨-, hover, -⟩ | ⟨-, hends⟩ := hsettled
  · cases hover.symm.trans htimed
  · have hgoes : removals.stopped x = false := rfl
    rw [removed, htimed]
    exact hmirrors.confirmed_eq rfl (hends.resolve_left (by simp [hgoes])) hgoes

/-- The removals of all subscriptions that a session has listed, gathered on its clock. -/
def Session.unregistered (s : Session τ) (xs : List Subscription) :
    Gathered Engine (World τ) Bool :=
  removals.run (fun _ _ => World.handler s.surroundings) xs.length (xs.map Engine.remove) s.clock
    s.listing.2

theorem Session.remove_eq (s : Session τ) :
    (s.remove "").1 = (match s.listing.1 with | .ok xs => removed (s.unregistered xs) | .error _ => 0) ∧
      (s.remove "").2.world =
        (match s.listing.1 with | .ok xs => (s.unregistered xs).state | .error _ => s.listing.2) :=
  s.remove_eq_removing ""

theorem Session.unregistered_settled (s : Session τ) (xs : List Subscription) :
    removals.Settled (s.unregistered xs) :=
  s.removing_settled "" xs

theorem Session.unregistered_mirrors (s : Session τ) (xs : List Subscription) :
    ∃ pool, removals.Comes (World.handler s.surroundings)
        ((xs.map Engine.remove).map .ready, s.listing.2) (pool, (s.unregistered xs).state) ∧
      removals.Mirrors [] [] [] (s.unregistered xs) pool :=
  s.removing_mirrors "" xs

theorem Session.listing_revoke {s s' : Session τ} {cancels : Bool}
    (hsurroundings : s'.surroundings = s.surroundings)
    (hworld : s'.world = s.world.revoke cancels) :
    s'.listing = (s.listing.1, s.listing.2.revoke cancels) := by
  unfold Session.listing
  rw [hsurroundings, hworld]
  exact (World.handler_apart s.surroundings cancels).atOnce Question.noConfusion s.world

end Engine
end TicketSync
