import TicketSync.Proofs.ListenerEnds
import TicketSync.Proofs.RenderingFaults
import TicketSync.Proofs.Teardown
import TicketSync.Proofs.TriggerRegistration

/-! # What the success of a session means

A session succeeds when what it came to is a cancellation. Mostly its caller has cancelled it then.
But a tracker may answer a registration as cancelled, or cancel the token that the listeners were
given, and the session cannot tell. Nothing else passes for a success. -/
namespace TicketSync

/-! ### Who answers as cancelled -/

namespace Store

theorem createSubscription_ne_cancelled (s : Store) (id : String) (x : Subscription) :
    s.createSubscription id x ≠ .error .cancelled := by
  cases s with
  | memory m => simp [createSubscription, MemoryStore.createSubscription, Except.map]
  | disk d => simp [createSubscription, DiskStore.createSubscription, Except.map]

theorem updateSubscription_ne_cancelled (s : Store) (x : Subscription) :
    s.updateSubscription x ≠ .error .cancelled := by
  cases s with
  | memory m =>
    simp only [updateSubscription, MemoryStore.updateSubscription]
    split <;> simp [Except.map, subscriptionNotFound]
  | disk d =>
    simp only [updateSubscription, DiskStore.updateSubscription]
    split <;> simp [Except.map, subscriptionNotFound]

theorem getSubscription_ne_cancelled (s : Store) (id : String) :
    s.getSubscription id ≠ .error .cancelled := by
  cases s with
  | memory m =>
    simp only [getSubscription, MemoryStore.getSubscription]
    cases m.subscriptions.get? id <;> simp [orFail, subscriptionNotFound]
  | disk d =>
    simp only [getSubscription, DiskStore.getSubscription]
    cases d.subscriptions.get? id with
    | none => simp [orFail, subscriptionNotFound, bind, Except.bind]
    | some v =>
      simp only [orFail, bind, Except.bind, DiskStore.readRecord]
      split <;> simp [DiskStore.unreadable]

end Store

theorem Vars.evaluate_ne_cancelled (fs : Template.Functions) (vars : Vars) (u : Update)
    (t : Ticket) : vars.evaluate fs u t ≠ .error .cancelled := by
  intro h
  unfold evaluate at h
  split at h
  · cases h
  · cases hrendered : vars.toList.mapM fun e => renderOne fs (context u t) e.1 e.2 with
    | ok values => simp [hrendered, bind, Except.bind, pure, Except.pure] at h
    | error f =>
      simp only [hrendered, bind, Except.bind, Except.error.injEq] at h
      obtain ⟨-, e, -, -, hfailed, -⟩ := mapM_eq_error_iff.mp hrendered
      unfold renderOne at hfailed
      split at hfailed
      · cases hfailed
      · rw [h] at hfailed
        cases hfailed

namespace Engine

variable {τ : Type}

theorem World.guarded_ne_cancelled {α : Type} {w : World τ} {op : StoreOperation}
    {run : World τ → Outcome α × World τ} (h : (run w).1 ≠ .error .cancelled) :
    (w.guarded op run).1 ≠ .error .cancelled := by
  unfold guarded
  split
  · simp [fault]
  · exact h

theorem World.keep_ne_cancelled (w : World τ) {r : Outcome Store} (h : r ≠ .error .cancelled) :
    (w.keep r).1 ≠ .error .cancelled := by
  cases r with
  | ok store => simp [keep]
  | error f => simpa [keep] using h

/-- An answer as cancelled to a question of a registration that trackers have no part in. -/
inductive Question.OwnAnswer : (q : Question) → q.Answer → Prop
  | render (vars : Vars) (u : Update) (t : Ticket) :
      OwnAnswer (.render vars u t) (.error .cancelled)
  | create (x : Subscription) : OwnAnswer (.createSubscription x) (.error .cancelled)
  | find (id : String) : OwnAnswer (.findSubscription id) (.error .cancelled)
  | update (x : Subscription) : OwnAnswer (.updateSubscription x) (.error .cancelled)

/-- The surroundings never answer these questions as cancelled. -/
theorem not_given_cancelled {e : Surroundings τ} {q : Question} {a : q.Answer}
    (h : q.OwnAnswer a) : ¬ (World.handler e).Gives ⟨q, a⟩ := by
  rintro ⟨w, w', hgiven⟩
  cases h with
  | render vars u t => exact vars.evaluate_ne_cancelled _ u t hgiven.symm
  | create x =>
    refine World.guarded_ne_cancelled ?_ hgiven.symm
    cases hstore : w.store.createSubscription (e.subscriptionId (w.subscriptions + 1)) x with
    | ok r => simp
    | error f =>
      intro hf
      cases hf
      exact w.store.createSubscription_ne_cancelled _ x hstore
  | find id =>
    exact World.guarded_ne_cancelled (w.store.getSubscription_ne_cancelled id) hgiven.symm
  | update x =>
    exact World.guarded_ne_cancelled
      (World.keep_ne_cancelled _ (w.store.updateSubscription_ne_cancelled x)) hgiven.symm

/-- A registration fails as cancelled only because its tracker has answered so. -/
theorem Registration.refused_as_cancelled {e : Surroundings τ} {baseUrl : String} {t : Trigger}
    {told : List (Exchange Engine)} (h : Registration baseUrl t told (.fail .cancelled))
    (hgiven : ∀ x ∈ told, (World.handler e).Gives x) :
    ∃ r, (⟨.subscribe t.tracker r, .error .cancelled⟩ : Exchange Engine) ∈ told := by
  cases h with
  | unrendered => exact (not_given_cancelled (.render t.vars {} {}) (hgiven _ (by simp))).elim
  | unstored vars createdAt =>
    exact (not_given_cancelled (.create (newRow baseUrl t createdAt)) (hgiven _ (by simp))).elim
  | stored vars createdAt id calling =>
    cases calling with
    | refused =>
      exact ⟨_, List.mem_append_right _ (List.mem_cons_of_mem _ List.mem_cons_self)⟩
    | accepted ref linking =>
      cases linking with
      | lost => exact (not_given_cancelled (.find id) (hgiven _ (by simp))).elim
      | unlinked y =>
        exact (not_given_cancelled (.update { y with trackerRef := some ref })
          (hgiven _ (by simp))).elim

/-! ### The token of the listeners -/

theorem conclude_of_ne {f : Failure} (h : f ≠ .cancelled) : conclude (.error f) = .error f := by
  rw [conclude, if_neg (fun hf => h (Failure.isCancelled_iff.mp hf))]

namespace Listening

/-- Listeners whose ends are the same as before, up to ends that have not been seen. -/
structure SameEnds (x x' : Listening τ) : Prop where
  endpoint : x'.endpoint = x.endpoint
  verdict : x'.verdict = x.verdict
  unseen : ∀ r ∈ x.unseen, r ∈ x'.unseen

/-- Apart from the end of the endpoint and the sight of an end, no event changes what is known of
the ends of listeners. -/
theorem sameEnds_step (x : Listening τ) (s : Session τ) {e : ListenerEvent}
    (hclose : ∀ r, e ≠ .close r) (hsee : e ≠ .see) : x.SameEnds (x.step s e).1 := by
  by_cases hleave : ∃ i r, e = .leave i r
  · obtain ⟨i, r, rfl⟩ := hleave
    simp only [step, leave]
    split
    · split
      · exact ⟨rfl, rfl, fun _ hr => List.mem_append_left _ hr⟩
      · exact ⟨rfl, rfl, fun _ hr => hr⟩
    · exact ⟨rfl, rfl, fun _ hr => hr⟩
  · have hquiet := x.quiet_step s (fun i r h => hleave ⟨i, r, h⟩) hclose hsee
    exact ⟨hquiet.ends .endpoint, hquiet.verdict, fun r hr => hquiet.unseen ▸ hr⟩

/-- Listeners whose token, as far as it is cancelled, was cancelled by the caller or because one of
them has failed. Then only can the endpoint have ended well. -/
structure Accounts (x : Listening τ) (isCancelled byCaller : Bool) : Prop where
  token : isCancelled = true → byCaller = true ∨ x.verdict.failure ≠ none
  closed : x.endpoint = some (.ok ()) → byCaller = true ∨ x.verdict.failure ≠ none
  failed : ∀ f, x.endpoint = some (.error f) →
    f = .cancelled ∨ .error f ∈ x.unseen ∨ x.verdict.failure ≠ none
  verdict : x.verdict.failure ≠ some .cancelled

theorem Accounts.begin {isCancelled byCaller : Bool} (h : isCancelled = true → byCaller = true)
    (names : List String) (ownWay : String → Bool) :
    (Listening.begin names ownWay : Listening τ).Accounts isCancelled byCaller where
  token hc := .inl (h hc)
  closed hc := by cases hc
  failed f hf := by cases hf
  verdict hf := by cases hf

/-- A failure that was seen stays, and an end that is not a cancellation makes one. -/
theorem failure_see {v : Verdict} {r : Outcome Unit}
    (h : v.failure ≠ none ∨ ∃ f, r = .error f ∧ f ≠ .cancelled) : (v.see r).failure ≠ none := by
  rw [Verdict.failure_see_eq]
  rcases h with hseen | ⟨f, hr, hf⟩
  · obtain ⟨f, hfailure⟩ := Option.ne_none_iff_exists'.mp hseen
    simp [hfailure]
  · simp [failureOf?_eq_some_iff.mpr ⟨hr, hf⟩]

theorem cancelled_of_see {v : Verdict} {r : Outcome Unit}
    (h : (v.see r).failure = some .cancelled) : v.failure = some .cancelled := by
  rw [Verdict.failure_see_eq, Option.or_eq_some_iff] at h
  rcases h with hseen | ⟨-, hr⟩
  · exact hseen
  · exact absurd rfl (failureOf?_eq_some_iff.mp hr).2

theorem Accounts.see {x : Listening τ} {isCancelled byCaller : Bool}
    (h : x.Accounts isCancelled byCaller) :
    x.see.1.Accounts (isCancelled || x.see.2) byCaller := by
  unfold Listening.see
  split
  · next r unseen hunseen =>
    have hkeeps : x.verdict.failure ≠ none → (x.verdict.see r).failure ≠ none :=
      fun hfailure => failure_see (.inl hfailure)
    refine ⟨fun hc => ?_, fun hc => (h.closed hc).imp_right hkeeps, fun f hf => ?_,
      fun hf => h.verdict (cancelled_of_see hf)⟩
    · rcases Bool.or_eq_true_iff.mp hc with hc | hc
      · exact (h.token hc).imp_right hkeeps
      · have hcancels := (Bool.and_eq_true_iff.mp hc).1
        exact .inr (Option.isSome_iff_ne_none.mp hcancels)
    · rcases h.failed f hf with hf | hmem | hfailure
      · exact .inl hf
      · rw [hunseen] at hmem
        rcases List.mem_cons.mp hmem with rfl | hmem
        · by_cases hcancelled : f = .cancelled
          · exact .inl hcancelled
          · exact .inr (.inr (failure_see (.inr ⟨f, rfl, hcancelled⟩)))
        · exact .inr (.inl hmem)
      · exact .inr (.inr (hkeeps hfailure))
  · simpa using h

theorem Accounts.close {x : Listening τ} {isCancelled byCaller : Bool}
    (h : x.Accounts isCancelled byCaller) (r : Outcome Unit) :
    (x.close isCancelled r).Accounts isCancelled byCaller := by
  unfold Listening.close
  split
  · next hcan =>
    refine ⟨h.token, fun hc => ?_, fun f hf => ?_, h.verdict⟩
    · cases hc
      have hopen := (Bool.and_eq_true_iff.mp hcan).2
      exact h.token (Bool.and_eq_true_iff.mp hopen).1
    · cases hf
      exact .inr (.inl (List.mem_append_right _ List.mem_cons_self))
  · exact h

/-- Listeners stay so as long as nothing but the sight of a failure cancels their token. -/
theorem Accounts.step {x : Listening τ} {s : Session τ} {byCaller : Bool} {e : ListenerEvent}
    (h : x.Accounts s.world.isCancelled byCaller)
    (htoken : e ≠ .see → (x.step s e).2.world.isCancelled = true → s.world.isCancelled = true) :
    (x.step s e).1.Accounts (x.step s e).2.world.isCancelled byCaller := by
  by_cases hsee : e = .see
  · subst hsee
    exact h.see
  · by_cases hclose : ∃ r, e = .close r
    · obtain ⟨r, rfl⟩ := hclose
      exact h.close r
    · have hsame := x.sameEnds_step s (fun r hr => hclose ⟨r, hr⟩) hsee
      refine ⟨fun hc => ?_, fun hc => ?_, fun f hf => ?_, hsame.verdict ▸ h.verdict⟩
      · rw [hsame.verdict]
        exact h.token (htoken hsee hc)
      · rw [hsame.verdict]
        exact h.closed (hsame.endpoint ▸ hc)
      · rw [hsame.verdict]
        exact (h.failed f (hsame.endpoint ▸ hf)).imp_right (Or.imp_left (hsame.unseen _))

/-- Listeners that have come to a cancellation were cancelled by the caller, or their endpoint has
ended as cancelled. -/
theorem Accounts.finished {x : Listening τ} {isCancelled byCaller : Bool}
    (h : x.Accounts isCancelled byCaller) (hover : x.isOver = true)
    (hok : conclude x.verdict.outcome = .ok ()) :
    byCaller = true ∨ x.endpoint = some (.error .cancelled) := by
  have hnone : x.verdict.failure = none := by
    cases hfailure : x.verdict.failure with
    | none => rfl
    | some f =>
      have hf : f ≠ .cancelled := fun hf => h.verdict (hfailure.trans (congrArg some hf))
      rw [Verdict.outcome, hfailure, Option.getD_some, conclude_of_ne hf] at hok
      cases hok
  simp only [isOver, Bool.and_eq_true, List.isEmpty_iff] at hover
  obtain ⟨⟨hended, -⟩, hseen⟩ := hover
  obtain ⟨r, hr⟩ := Option.isSome_iff_exists.mp hended
  cases r with
  | ok u => exact .inl ((h.closed hr).resolve_right (fun hf => hf hnone))
  | error f =>
    rcases h.failed f hr with rfl | hmem | hfailure
    · exact .inr hr
    · rw [hseen] at hmem
      cases hmem
    · exact absurd hnone hfailure

end Listening

/-! ### The life of a session -/

namespace Life

/-- An event by which a tracker cancels the token of the listeners: it is cancelled while they run,
and not because the failure of one of them was seen. -/
def Revokes (l : Life τ) (event : LifeEvent) : Prop :=
  l.stage.phase = .listening ∧ l.session.world.isCancelled = false ∧
    ∃ e, event = .listen e ∧ e ≠ .see ∧ (l.step event).session.world.isCancelled = true

/-- The listeners, if there were any, had a failure, were cancelled by the caller, or their endpoint
has ended as cancelled. -/
def Excused (l : Life τ) (heard : Option (Listening τ)) : Prop :=
  ∀ x, heard = some x → conclude x.verdict.outcome = .ok () →
    l.cancelled = true ∨ x.endpoint = some (.error .cancelled)

/-- A life whose token only the caller, or the failure of a listener, has cancelled. -/
def Accounts (l : Life τ) (heard : Option (Listening τ)) : Prop :=
  match l.stage with
  | .registering _ => heard = none ∧ (l.session.world.isCancelled = true → l.cancelled = true)
  | .listening x => x.Accounts l.session.world.isCancelled l.cancelled
  | .listing _ | .removing _ _ | .stopped _ _ => l.Excused heard

theorem accounts_registered {l : Life τ} {heard : Option (Listening τ)} (hheard : heard = none)
    (h : l.session.world.isCancelled = true → l.cancelled = true)
    (pool : Pool Engine (World τ) Unit) : (l.registered pool).Accounts heard := by
  unfold registered
  split
  · intro x hx
    rw [hheard] at hx
    cases hx
  · split
    · exact .begin h _ _
    · exact ⟨hheard, h⟩

theorem accounts_unregistered {l : Life τ} {heard : Option (Listening τ)} (h : l.Excused heard)
    (r : Outcome Unit) (pool : Pool Engine (World τ) Bool) :
    (l.unregistered r pool).Accounts heard := by
  unfold unregistered
  split
  · exact h
  · exact h

theorem accounts_begin (s : Session τ) (ownWay : String → Bool) :
    (begin s ownWay).Accounts none :=
  accounts_registered rfl (fun h => h) _

theorem accounts_listen {l : Life τ} {heard : Option (Listening τ)} (h : l.Accounts heard)
    {e : ListenerEvent} (hrevokes : ¬ l.Revokes (.listen e)) :
    (l.listen e).Accounts ((l.heard? (.listen e)).or heard) := by
  obtain ⟨session, stage, cancelled, ownWay, entered⟩ := l
  cases stage with
  | listening x =>
    have hworld : ((Life.mk session (.listening x) cancelled ownWay entered).step
        (.listen e)).session.world = (x.step session e).2.world := by
      simp only [Life.step, listen]
      split <;> rfl
    have hstep := Listening.Accounts.step (e := e) h (fun hsee hafter => by
      rw [← Bool.not_eq_false]
      intro hbefore
      exact hrevokes ⟨rfl, hbefore, e, rfl, hsee, hworld ▸ hafter⟩)
    simp only [listen, heard?, Option.some_or]
    split
    · next r hover =>
      rintro y ⟨⟩ hok
      have hend : (x.step session e).1.isOver = true := by
        unfold Listening.outcome? at hover
        split at hover
        · next hend => exact hend
        · cases hover
      exact hstep.finished hend hok
    · exact hstep
  | _ => exact h

theorem accounts_step {l : Life τ} {heard : Option (Listening τ)} (h : l.Accounts heard)
    {event : LifeEvent} (hrevokes : ¬ l.Revokes event) :
    (l.step event).Accounts ((l.heard? event).or heard) := by
  cases event with
  | listen e => exact accounts_listen h hrevokes
  | turn i =>
    obtain ⟨session, stage, cancelled, ownWay, entered⟩ := l
    cases stage with
    | registering pool =>
      refine accounts_registered h.1 (fun hc => ?_) _
      exact Bool.or_eq_true_iff.mpr (.inr hc)
    | removing r pool =>
      refine accounts_unregistered ?_ _ _
      exact h
    | _ => exact h
  | cancel =>
    obtain ⟨session, stage, cancelled, ownWay, entered⟩ := l
    cases stage with
    | registering pool => exact ⟨h.1, fun _ => rfl⟩
    | listening x => exact ⟨fun _ => .inl rfl, fun _ => .inl rfl, h.failed, h.verdict⟩
    | _ => exact fun x hx hok => .inl rfl
  | list =>
    obtain ⟨session, stage, cancelled, ownWay, entered⟩ := l
    cases stage with
    | listing r =>
      simp only [Life.step, list]
      split
      · refine accounts_unregistered ?_ _ _
        exact h
      · exact h
    | _ => exact h
  | expire =>
    obtain ⟨session, stage, cancelled, ownWay, entered⟩ := l
    cases stage <;> exact h

end Life

namespace Chronicle

variable {s : Session τ} {c : Chronicle τ}

/-- At any time, a tracker has cancelled the token of the listeners, or only the caller and failures
have. -/
theorem accounts_run (h : c.life.Accounts c.heard) (events : List LifeEvent) :
    (c.run events).life.Accounts (c.run events).heard ∨
      ∃ before event after, events = before ++ event :: after ∧
        (c.life.run before).Revokes event := by
  induction events generalizing c with
  | nil => exact .inl h
  | cons event events ih =>
    by_cases hrevokes : c.life.Revokes event
    · exact .inr ⟨[], event, events, rfl, hrevokes⟩
    · rcases ih (c := c.step event) (Life.accounts_step h hrevokes) with
        haccounts | ⟨before, e, after, rfl, he⟩
      · exact .inl haccounts
      · exact .inr ⟨event :: before, e, after, rfl, he⟩

/-- Every answer in the history of a session was given by its surroundings. -/
theorem given_run (s : Session τ) (ownWay : String → Bool) (events : List LifeEvent) :
    ∀ y ∈ ((Chronicle.begin s ownWay).run events).told,
      (World.handler s.surroundings).Gives y.2 := by
  have hrun := run_invariant
    (P := fun c => c.Sound s ∧ ∀ y ∈ c.told, (World.handler s.surroundings).Gives y.2)
    (fun c event h => ⟨sound_step h.1 event, gives_of_step h.1 h.2 event⟩)
    ⟨sound_begin s ownWay, by simp [Chronicle.begin]⟩ events
  exact hrun.2

/-- A tracker has answered a registration as cancelled. -/
def Refused (c : Chronicle τ) : Prop :=
  ∃ i tracker r, (.registration i, ⟨.subscribe tracker r, .error .cancelled⟩) ∈ c.told

/-- A registration has failed, with this failure. -/
def FailedWith (s : Session τ) (c : Chronicle τ) (f : Failure) : Prop :=
  ∃ (i : Nat) (script : Script Engine Unit), s.registrations[i]? = some script ∧
    script.Leads (c.exchangesOf (.registration i)) (.fail f)

theorem FailedWith.refused (h : c.FailedWith s .cancelled)
    (hgiven : ∀ y ∈ c.told, (World.handler s.surroundings).Gives y.2) : c.Refused := by
  obtain ⟨i, script, hscript, hleads⟩ := h
  obtain ⟨t, -, rfl⟩ := List.mem_map.mp (List.mem_of_getElem? hscript)
  obtain ⟨r, hr⟩ := (registration_of_leads hleads).refused_as_cancelled
    fun x hx => hgiven _ (mem_told_of_exchangesOf hx)
  exact ⟨i, t.tracker, r, mem_told_of_exchangesOf hr⟩

/-- A session that is over has come to the failure of a registration, or to the verdict on its
listeners after all registrations have succeeded. -/
theorem Sound.outcome (h : c.Sound s) {r : Outcome Unit} {n : Nat}
    (hr : c.life.outcome? = some (r, n)) :
    (∃ f, c.FailedWith s f ∧ r = conclude (.error f)) ∨
    c.Registered s (.ok ()) ∧ ∃ x, c.heard = some x ∧ r = conclude x.verdict.outcome := by
  have hstands := h.stands
  rw [stopped_of_outcome? hr] at hstands
  obtain ⟨registered, listened, -, hregistered, hcame, rfl, -⟩ := hstands
  cases registered with
  | error f =>
    obtain ⟨-, rfl⟩ := hcame
    exact .inl ⟨f, hregistered.failed f rfl, rfl⟩
  | ok u =>
    obtain ⟨x, hx, -, rfl⟩ := hcame
    exact .inr ⟨hregistered, x, hx, rfl⟩

/-- What the success of a session means. Its caller has cancelled it, or else a tracker has answered
a registration as cancelled, the endpoint has ended as cancelled, or a tracker has cancelled the
token of the listeners. And unless a tracker has answered a registration as cancelled, a session in
which a registration has failed ends with such a failure. -/
theorem session_succeeds_when_cancelled (s : Session τ) (ownWay : String → Bool)
    (events : List LifeEvent) :
    let c := (Chronicle.begin s ownWay).run events
    c.life = (Life.begin s ownWay).run events ∧
    (∀ n, c.life.outcome? = some (.ok (), n) →
      c.life.cancelled = true ∨ c.Refused ∨
      (∃ x, c.heard = some x ∧ x.endpoint = some (.error .cancelled)) ∨
      ∃ before event after, events = before ++ event :: after ∧
        ((Life.begin s ownWay).run before).Revokes event) ∧
    ∀ r n f, c.life.outcome? = some (r, n) → c.FailedWith s f →
      c.Refused ∨ ∃ f', c.FailedWith s f' ∧ r = .error f' := by
  intro c
  have hsound : c.Sound s := sound_run s ownWay events
  have hgiven := given_run s ownWay events
  refine ⟨life_run _ events, ?_, ?_⟩
  · intro n hover
    rcases hsound.outcome hover with ⟨f, hfailed, hok⟩ | ⟨-, x, hx, hok⟩
    · by_cases hf : f = .cancelled
      · subst hf
        exact .inr (.inl (hfailed.refused hgiven))
      · rw [conclude_of_ne hf] at hok
        cases hok
    · rcases accounts_run (c := Chronicle.begin s ownWay) (Life.accounts_begin s ownWay) events with
        haccounts | hrevoked
      · have hstage : (c.life.stage) = .stopped (.ok ()) n := stopped_of_outcome? hover
        have hexcused : c.life.Excused c.heard := by
          unfold Life.Accounts at haccounts
          rwa [hstage] at haccounts
        rcases hexcused x hx hok.symm with hcaller | hendpoint
        · exact .inl hcaller
        · exact .inr (.inr (.inl ⟨x, hx, hendpoint⟩))
      · exact .inr (.inr (.inr hrevoked))
  · intro r n f hover hfailed
    rcases hsound.outcome hover with ⟨f', hfailed', rfl⟩ | ⟨hregistered, -⟩
    · by_cases hf : f' = .cancelled
      · subst hf
        exact .inl (hfailed'.refused hgiven)
      · exact .inr ⟨f', hfailed', conclude_of_ne hf⟩
    · obtain ⟨i, script, hscript, hleads⟩ := hfailed
      have hdone := hregistered.succeeded rfl i script hscript
      cases hleads.unique hdone

/-- A session with one trigger, whose tracker answers its registration with a failure. -/
def refusing (f : Failure) : Session Unit where
  config :=
    { server := { baseUrl := "http://localhost" }
      triggers := [{ name := "mail", tracker := "desk" }] }
  surroundings :=
    { Course.desk with
      trackers :=
        { Course.desk.trackers with
          subscribe := fun _ _ s => ({ settle := fun s => (.error f, s) }, s) } }
  world := { store := .memory {}, trackers := () }

/-- The registration has its turns, and what it has stored is listed and removed. -/
def refused : List LifeEvent :=
  [.turn 0, .turn 0, .turn 0, .turn 0, .turn 0, .list, .turn 0]

/-- A registration has failed and nobody has cancelled the session, but it succeeds. -/
theorem refusal_as_cancelled_succeeds :
    let c := (Chronicle.begin (refusing .cancelled) fun _ => false).run refused
    c.life.outcome? = some (.ok (), 1) ∧ c.life.cancelled = false ∧ c.Refused ∧
      c.FailedWith (refusing .cancelled) .cancelled := by
  intro c
  have hover : c.life.outcome? = some (.ok (), 1) := by decide +kernel
  have hsilent : c.heard = none := by rfl
  refine ⟨hover, by decide +kernel, ⟨0, "desk", _, List.mem_of_getElem? (i := 4) rfl⟩, ?_⟩
  rcases (sound_run (refusing .cancelled) _ refused).outcome hover with
    ⟨f, hfailed, hok⟩ | ⟨-, x, hx, -⟩
  · cases f <;> first | exact hfailed | cases hok
  · cases hsilent.symm.trans hx

/-- The caller cancels the session while it listens. -/
def calledOff : List LifeEvent :=
  [.cancel, .listen (.leave 0 (.error .cancelled)), .listen (.close (.ok ())), .listen .see,
    .listen .see, .list, .turn 0, .turn 0, .turn 0]

theorem called_off_and_refused :
    let c := (Chronicle.begin closing fun _ => false).run calledOff
    let d := (Chronicle.begin (refusing (.transport "refused")) fun _ => false).run refused
    c.life.outcome? = some (.ok (), 1) ∧
    (c.life.cancelled = true ∨ c.Refused ∨
      (∃ x, c.heard = some x ∧ x.endpoint = some (.error .cancelled)) ∨
      ∃ before event after, calledOff = before ++ event :: after ∧
        ((Life.begin closing fun _ => false).run before).Revokes event) ∧
    d.life.outcome? = some (.error (.transport "refused"), 1) ∧
    (d.Refused ∨ ∃ f, d.FailedWith (refusing (.transport "refused")) f ∧
      .error (.transport "refused") = (.error f : Outcome Unit)) := by
  intro c d
  have hcalled : c.life.outcome? = some (.ok (), 1) := by decide +kernel
  have hrefused : d.life.outcome? = some (.error (.transport "refused"), 1) := by decide +kernel
  have hsilent : d.heard = none := by rfl
  obtain ⟨-, hsucceeds, -⟩ := session_succeeds_when_cancelled closing (fun _ => false) calledOff
  obtain ⟨-, -, hfails⟩ :=
    session_succeeds_when_cancelled (refusing (.transport "refused")) (fun _ => false) refused
  refine ⟨hcalled, hsucceeds 1 hcalled, hrefused, ?_⟩
  rcases (sound_run (refusing (.transport "refused")) _ refused).outcome hrefused with
    ⟨f, hfailed, -⟩ | ⟨-, x, hx, -⟩
  · exact hfails _ 1 f hrefused hfailed
  · cases hsilent.symm.trans hx

end Chronicle
end Engine
end TicketSync
