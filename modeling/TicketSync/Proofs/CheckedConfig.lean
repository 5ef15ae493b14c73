import TicketSync.Engine.Session
import TicketSync.Proofs.ConfigFindings
import TicketSync.Proofs.RenderingFaults
import TicketSync.Proofs.ScriptTrace

/-! # Failures that a checked configuration rules out

The check of a configuration and a run of a job go through the same steps. What the check leaves
without a finding of level `error` has known trackers and parsed templates at every depth, so a
script of the engine fails with what a tracker answers, or with a failure that no such check
foresees. -/
namespace TicketSync

/-! ### The store -/

/-- An outcome that fails, if it does, only beyond any check of a configuration. -/
def FailsBeyond {α : Type} (r : Outcome α) : Prop := ∀ f, r = .error f → f.BeyondCheck

namespace FailsBeyond

variable {α β : Type}

theorem ok (x : α) : FailsBeyond (.ok x : Outcome α) := by
  intro f h
  cases h

theorem error {f : Failure} (h : f.BeyondCheck) : FailsBeyond (.error f : Outcome α) := by
  rintro _ ⟨⟩
  exact h

theorem map {r : Outcome α} (h : FailsBeyond r) (g : α → β) : FailsBeyond (r.map g) := by
  cases r with
  | ok x => exact ok _
  | error f => exact error (h f rfl)

theorem bind {r : Outcome α} {k : α → Outcome β} (h : FailsBeyond r) (hk : ∀ x, FailsBeyond (k x)) :
    FailsBeyond (r >>= k) := by
  cases r with
  | ok x => exact hk x
  | error f => exact error (h f rfl)

theorem notFound (what key : String) : FailsBeyond (.error (.notFound what key) : Outcome α) :=
  error ⟨by simp, by simp, by simp⟩

theorem orFail_notFound (what key : String) (x : Option α) :
    FailsBeyond (orFail (.notFound what key) x) := by
  cases x with
  | some x => exact ok x
  | none => exact notFound what key

theorem readRecord (read : Json → Decoded α) (v : Json) :
    FailsBeyond (DiskStore.readRecord read v) := by
  unfold DiskStore.readRecord
  split
  · exact ok _
  · exact error ⟨by simp [DiskStore.unreadable], by simp [DiskStore.unreadable],
      by simp [DiskStore.unreadable]⟩

end FailsBeyond

namespace Store

open FailsBeyond

theorem failsBeyond_getTicket (s : Store) (q : TicketQuery) : FailsBeyond (s.getTicket q) := by
  cases s with
  | memory m => exact orFail_notFound _ _ _
  | disk d =>
    have hfound : ∀ key id, FailsBeyond (orFail (ticketNotFound key) (d.tickets.get? id) >>=
        DiskStore.readRecord Ticket.ofJson?) := fun key id =>
      (orFail_notFound _ _ _).bind fun v => readRecord _ v
    cases q with
    | id id => exact hfound id id
    | locator l => exact (orFail_notFound _ _ _).bind fun id => hfound l.display id

theorem failsBeyond_createTicket (s : Store) (id : String) (t : Ticket) :
    FailsBeyond (s.createTicket id t) := by
  cases s with
  | memory m => exact FailsBeyond.map (ok _) _
  | disk d =>
    refine FailsBeyond.map ?_ _
    unfold DiskStore.createTicket
    split
    · exact error ⟨by simp, by simp, by simp⟩
    · exact ok _

theorem failsBeyond_updateTicket (s : Store) (t : Ticket) : FailsBeyond (s.updateTicket t) := by
  cases s with
  | memory m =>
    refine FailsBeyond.map ?_ _
    unfold MemoryStore.updateTicket
    split
    · exact ok _
    · exact notFound _ _
  | disk d =>
    refine FailsBeyond.map ?_ _
    unfold DiskStore.updateTicket
    split
    · exact notFound _ _
    · exact (readRecord _ _).bind fun old => ok _

theorem failsBeyond_createSubscription (s : Store) (id : String) (x : Subscription) :
    FailsBeyond (s.createSubscription id x) := by
  cases s with
  | memory m => exact FailsBeyond.map (ok _) _
  | disk d => exact FailsBeyond.map (ok _) _

theorem failsBeyond_updateSubscription (s : Store) (x : Subscription) :
    FailsBeyond (s.updateSubscription x) := by
  cases s with
  | memory m =>
    refine FailsBeyond.map ?_ _
    unfold MemoryStore.updateSubscription
    split
    · exact ok _
    · exact notFound _ _
  | disk d =>
    refine FailsBeyond.map ?_ _
    unfold DiskStore.updateSubscription
    split
    · exact ok _
    · exact notFound _ _

theorem failsBeyond_getSubscription (s : Store) (id : String) :
    FailsBeyond (s.getSubscription id) := by
  cases s with
  | memory m => exact orFail_notFound _ _ _
  | disk d => exact (orFail_notFound _ _ _).bind fun v => readRecord _ v

end Store

namespace Engine

variable {τ α : Type}

namespace World

theorem failsBeyond_guarded {w : World τ} {op : StoreOperation}
    {run : World τ → Outcome α × World τ} (h : FailsBeyond (run w).1) : FailsBeyond (w.guarded op run).1 := by
  unfold guarded
  split
  · exact .error ⟨by simp [fault], by simp [fault], by simp [fault]⟩
  · exact h

theorem failsBeyond_keep (w : World τ) {r : Outcome Store} (h : FailsBeyond r) :
    FailsBeyond (w.keep r).1 := by
  cases r with
  | ok store => exact .ok ()
  | error f => exact .error (h f rfl)

theorem failsBeyond_createTicket (e : Surroundings τ) (t : Ticket) (w : World τ) :
    FailsBeyond (w.createTicket e t).1 := by
  refine failsBeyond_guarded ?_
  have hstore := w.store.failsBeyond_createTicket (e.ticketId (w.tickets + 1)) t
  cases hr : w.store.createTicket (e.ticketId (w.tickets + 1)) t with
  | ok r => exact .ok r.1
  | error f => exact .error (hstore f hr)

theorem failsBeyond_createSubscription (e : Surroundings τ) (x : Subscription) (w : World τ) :
    FailsBeyond (w.createSubscription e x).1 := by
  refine failsBeyond_guarded ?_
  have hstore := w.store.failsBeyond_createSubscription (e.subscriptionId (w.subscriptions + 1)) x
  cases hr : w.store.createSubscription (e.subscriptionId (w.subscriptions + 1)) x with
  | ok r => exact .ok r.1
  | error f => exact .error (hstore f hr)

end World

/-! ### Scripts -/

/-- An exchange in which a tracker answered with a failure. -/
inductive AnswersWith (f : Failure) : Exchange Engine → Prop
  | call (tracker : String) (r : CallRequest) : AnswersWith f ⟨.call tracker r, .error f⟩
  | subscribe (tracker : String) (r : SubscribeRequest) :
      AnswersWith f ⟨.subscribe tracker r, .error f⟩

/-- A script that fails, whatever its surroundings answer, with what a tracker answered last, or
beyond any check of a configuration. -/
def Reliable (e : Surroundings τ) (s : Script Engine α) : Prop :=
  ∀ xs f, s.Leads xs (.fail f) → (∀ x ∈ xs, (World.handler e).Gives x) →
    f.BeyondCheck ∨ ∃ before x, xs = before ++ [x] ∧ AnswersWith f x

namespace Reliable

variable {e : Surroundings τ} {β : Type}

theorem done (x : α) : Reliable e (.done x) := by
  intro xs f h
  simp at h

theorem fail {f : Failure} (hf : f.BeyondCheck) : Reliable e (.fail f : Script Engine α) := by
  intro xs g h hx
  obtain ⟨-, heq⟩ := Script.leads_fail_iff.mp h
  cases heq
  exact .inl hf

theorem ask {q : Question} {next : q.Answer → Script Engine α}
    (h : ∀ a, (World.handler e).Gives ⟨q, a⟩ →
      Reliable e (next a) ∨ ∃ f, next a = .fail f ∧ AnswersWith f ⟨q, a⟩) :
    Reliable e (.ask q next) := by
  intro xs f hleads hx
  obtain ⟨a, ys, rfl, hrest⟩ := Script.leads_ask_ended (r := .error f) hleads
  rcases h a (hx _ List.mem_cons_self) with hnext | ⟨g, hg, hanswer⟩
  · rcases hnext ys f hrest fun x hmem => hx x (List.mem_cons_of_mem _ hmem) with
      hf | ⟨before, x, rfl, hlast⟩
    · exact .inl hf
    · exact .inr ⟨⟨q, a⟩ :: before, x, rfl, hlast⟩
  · rw [hg] at hrest
    obtain ⟨rfl, heq⟩ := Script.leads_fail_iff.mp hrest
    cases heq
    exact .inr ⟨[], _, rfl, hanswer⟩

theorem bind {s : Script Engine α} {k : α → Script Engine β} (hs : Reliable e s)
    (hk : ∀ x, Reliable e (k x)) : Reliable e (s.bind k) := by
  intro xs f hleads hx
  rcases Script.leads_bind_ended (r := .error f) hleads with
    ⟨g, heq, hfirst⟩ | ⟨x, ys, zs, rfl, -, hsecond⟩
  · cases heq
    exact hs xs f hfirst hx
  · rcases hk x zs f hsecond fun y hmem => hx y (List.mem_append_right _ hmem) with
      hf | ⟨before, y, rfl, hlast⟩
    · exact .inl hf
    · exact .inr ⟨ys ++ before, y, by simp, hlast⟩

theorem ofOutcome {r : Outcome α} (h : FailsBeyond r) : Reliable e (Script.ofOutcome r) := by
  cases r with
  | ok x => exact done x
  | error f => exact fail (h f rfl)

end Reliable

section
variable {e : Surroundings τ} {env : Dict String}

theorem reliable_checkpoint : Reliable e checkpoint := by
  refine .ask fun cancelled _ => .inl ?_
  cases cancelled with
  | true => exact .fail ⟨by simp, by simp, by simp⟩
  | false => exact .done ()

theorem reliable_requireTracker {name : String} (h : name ∈ e.trackers.names) :
    Reliable e (requireTracker name) := by
  refine .ask fun registered hgives => .inl ?_
  obtain ⟨w, w', rfl⟩ : ∃ _ _ : World τ, registered = decide (name ∈ e.trackers.names) := hgives
  simpa [h] using Reliable.done ()

theorem reliable_render (hfs : e.functions = .standard env) {vars : Vars} (hvars : vars.Parsed)
    (u : Update) (t : Ticket) : Reliable e ((inquire (.render vars u t)).bind .ofOutcome) := by
  refine .ask fun rendered hgives => .inl ?_
  obtain ⟨w, w', rfl⟩ : ∃ _ _ : World τ, rendered = vars.evaluate e.functions u t := hgives
  refine .ofOutcome fun f hf => ?_
  rw [hfs] at hf
  exact Vars.beyondCheck_of_evaluate (fun g hg => Template.standard_contains hg env) hvars hf

theorem reliable_condition (hfs : e.functions = .standard env) {condition : String}
    (hcondition : conditionFault checkFunctions condition = none) (u : Update) (t : Ticket) :
    Reliable e ((inquire (.condition condition u t)).bind .ofOutcome) := by
  refine .ask fun holds hgives => .inl ?_
  obtain ⟨w, w', rfl⟩ : ∃ _ _ : World τ, holds = evalCondition e.functions condition u t := hgives
  refine .ofOutcome fun f hf => ?_
  rw [hfs] at hf
  exact beyondCheck_of_evalCondition (fun g hg => Template.standard_contains hg env) hcondition hf

theorem reliable_call (tracker : String) (r : CallRequest) :
    Reliable e ((inquire (.call tracker r)).bind .ofOutcome) := by
  refine .ask fun answer _ => ?_
  cases answer with
  | ok id => exact .inl (.done id)
  | error f => exact .inr ⟨f, rfl, .call tracker r⟩

theorem reliable_subscribe (tracker : String) (r : SubscribeRequest) :
    Reliable e ((inquire (.subscribe tracker r)).bind .ofOutcome) := by
  refine .ask fun answer _ => ?_
  cases answer with
  | ok ref => exact .inl (.done ref)
  | error f => exact .inr ⟨f, rfl, .subscribe tracker r⟩

theorem reliable_runAction (hfs : e.functions = .standard env) {a : Action}
    (htracker : a.name.tracker ∈ e.trackers.names) (hvars : a.vars.Parsed) (u : Update)
    (t : Ticket) : Reliable e (runAction u a t) := by
  have hrun : Reliable e (((inquire (.render a.vars u t)).bind .ofOutcome).bind fun vars =>
      (requireTracker a.name.tracker).bind fun _ =>
        ((inquire (.call a.name.tracker (a.request vars t))).bind .ofOutcome).bind fun id =>
          .done (a.link t id)) :=
    (reliable_render hfs hvars u t).bind fun vars =>
      (reliable_requireTracker htracker).bind fun _ =>
        (reliable_call _ _).bind fun id => .done _
  simpa [runAction, Script.bind_assoc] using hrun

mutual
theorem reliable_runStep (hfs : e.functions = .standard env) (u : Update) (s : Step) (t : Ticket)
    (hs : s.Checked e.trackers.names) : Reliable e (runStep u s t) := by
  cases s with
  | action a => exact reliable_runAction hfs hs.1 hs.2 u t
  | branch condition steps =>
    have hrun : Reliable e (((inquire (.condition condition u t)).bind .ofOutcome).bind fun holds =>
        if holds then runSteps u steps t else .done t) := by
      refine (reliable_condition hfs hs.1 u t).bind fun holds => ?_
      cases holds with
      | true => exact reliable_runSteps hfs u steps t hs.2
      | false => exact .done t
    simpa [runStep, Script.bind_assoc] using hrun

theorem reliable_runSteps (hfs : e.functions = .standard env) (u : Update) (steps : List Step)
    (t : Ticket) (hs : Step.AllChecked e.trackers.names steps) :
    Reliable e (runSteps u steps t) := by
  cases steps with
  | nil => exact .done t
  | cons s rest =>
    exact reliable_checkpoint.bind fun _ =>
      (reliable_runStep hfs u s t hs.1).bind fun t' => reliable_runSteps hfs u rest t' hs.2
end

theorem reliable_resolve (source : Locator) : Reliable e (resolve source) := by
  refine .ask fun looked hgives => .inl ?_
  obtain ⟨w, w', rfl⟩ : ∃ w _ : World τ, looked =
      (w.guarded .getTicket fun w => (w.store.getTicket (.locator source), w)).1 := hgives
  have hstore : FailsBeyond (w.guarded .getTicket fun w =>
      (w.store.getTicket (.locator source), w)).1 :=
    World.failsBeyond_guarded (w.store.failsBeyond_getTicket _)
  generalize (w.guarded .getTicket fun w => (w.store.getTicket (.locator source), w)).1 = looked
    at hstore
  cases looked with
  | ok t => exact .done t
  | error f =>
    cases hf : f.isNotFound with
    | true => simpa [hf] using Reliable.done (e := e) ({} : Ticket)
    | false => simpa [hf] using Reliable.fail (hstore f rfl)

theorem reliable_save (t : Ticket) : Reliable e (save t) := by
  cases hid : t.isPersisted with
  | true =>
    have hrun :
        Reliable e (((inquire (.updateTicket t)).bind .ofOutcome).bind fun _ => .done t) := by
      refine .bind (.ask fun answer hgives => .inl ?_) fun _ => .done t
      obtain ⟨w, w', rfl⟩ : ∃ w _ : World τ, answer = (w.updateTicket t).1 := hgives
      exact .ofOutcome (World.failsBeyond_guarded
        (World.failsBeyond_keep _ (Store.failsBeyond_updateTicket _ t)))
    simpa [save, hid, Script.bind_assoc] using hrun
  | false =>
    have hrun : Reliable e (((inquire (.createTicket t)).bind .ofOutcome).bind fun id =>
        .done { t with id }) := by
      refine .bind (.ask fun answer hgives => .inl ?_) fun id => .done _
      obtain ⟨w, w', rfl⟩ : ∃ w _ : World τ, answer = (w.createTicket e t).1 := hgives
      exact .ofOutcome (World.failsBeyond_createTicket e t w)
    simpa [save, hid, Script.bind_assoc] using hrun

theorem reliable_runJob (hfs : e.functions = .standard env) {j : Job}
    (hj : Step.AllChecked e.trackers.names j.steps) (u : Update) : Reliable e (runJob j u) :=
  (reliable_resolve u.receivedFrom).bind fun t =>
    (reliable_runSteps hfs u j.steps (t.patch u) hj).bind fun t' =>
      reliable_checkpoint.bind fun _ => reliable_save t'

theorem reliable_openSubscription (baseUrl tracker trigger : String) :
    Reliable e (openSubscription baseUrl tracker trigger) := by
  refine .ask fun createdAt _ => .inl ?_
  have hcreate : ∀ x : Subscription,
      Reliable e ((inquire (.createSubscription x)).bind .ofOutcome) := by
    intro x
    refine .ask fun answer hgives => .inl ?_
    obtain ⟨w, w', rfl⟩ : ∃ w _ : World τ, answer = (w.createSubscription e x).1 := hgives
    exact .ofOutcome (World.failsBeyond_createSubscription e x w)
  simpa [Script.bind_assoc] using (hcreate _).bind fun id => .done _

theorem reliable_linkSubscription (id ref : String) : Reliable e (linkSubscription id ref) := by
  have hfind : Reliable e ((inquire (.findSubscription id)).bind .ofOutcome) := by
    refine .ask fun answer hgives => .inl ?_
    obtain ⟨w, w', rfl⟩ : ∃ w _ : World τ, answer =
        (w.guarded .getSubscription fun w => (w.store.getSubscription id, w)).1 := hgives
    exact .ofOutcome (World.failsBeyond_guarded (w.store.failsBeyond_getSubscription id))
  have hupdate : ∀ x : Subscription,
      Reliable e ((inquire (.updateSubscription x)).bind .ofOutcome) := by
    intro x
    refine .ask fun answer hgives => .inl ?_
    obtain ⟨w, w', rfl⟩ : ∃ w _ : World τ, answer = (w.updateSubscription x).1 := hgives
    exact .ofOutcome (World.failsBeyond_guarded
      (World.failsBeyond_keep _ (Store.failsBeyond_updateSubscription _ x)))
  have hrun : Reliable e (((inquire (.findSubscription id)).bind .ofOutcome).bind fun x =>
      ((inquire (.updateSubscription { x with trackerRef := some ref })).bind .ofOutcome).bind
        fun _ => .done { x with trackerRef := some ref }) :=
    hfind.bind fun x => (hupdate _).bind fun _ => .done _
  simpa [linkSubscription, findSubscription, Script.bind_assoc] using hrun

theorem reliable_register (hfs : e.functions = .standard env) {t : Trigger}
    (htracker : t.tracker ∈ e.trackers.names) (hvars : t.vars.Parsed) (baseUrl : String) :
    Reliable e (register baseUrl t) := by
  have hrun : Reliable e ((requireTracker t.tracker).bind fun _ =>
      ((inquire (.render t.vars {} {})).bind .ofOutcome).bind fun vars =>
        (openSubscription baseUrl t.tracker t.name).bind fun x =>
          ((inquire (.subscribe t.tracker ⟨x.url, vars⟩)).bind .ofOutcome).bind fun ref =>
            (linkSubscription x.id ref).bind fun _ => .done ()) :=
    (reliable_requireTracker htracker).bind fun _ =>
      (reliable_render hfs hvars {} {}).bind fun vars =>
        (reliable_openSubscription baseUrl t.tracker t.name).bind fun x =>
          (reliable_subscribe _ _).bind fun ref =>
            (reliable_linkSubscription x.id ref).bind fun _ => .done ()
  simpa [register, Script.bind_assoc] using hrun

end

/-! ### Sessions -/

/-- What reliable scripts fail with when they run together on a clock. -/
theorem Reliable.failure_of_outcome {e : Surroundings τ} {scripts : List (Script Engine α)}
    (h : ∀ s ∈ scripts, Reliable e s) {g : Gathering} {moments now : Nat} {w : World τ} {i : Nat}
    {f : Failure}
    (hf : (i, .error f) ∈ (g.run (fun _ _ => World.handler e) moments scripts now w).outcomes) :
    f.BeyondCheck ∨ ∃ x, (World.handler e).Gives x ∧ AnswersWith f x := by
  have hgives : ∀ _ _ : Nat, (World.handler e).Keeps (World.handler e).Gives :=
    fun _ _ => (World.handler e).keeps_gives
  rcases Gathering.outcome_leads hgives g moments scripts now w hf with
    ⟨l, hl⟩ | ⟨script, hget, xs, hleads, hx⟩
  · cases hl
    exact .inl ⟨by simp, by simp, by simp⟩
  · have hreliable := h script (List.mem_of_getElem? hget)
    rcases hreliable xs f hleads hx with hbeyond | ⟨before, x, rfl, hlast⟩
    · exact .inl hbeyond
    · exact .inr ⟨x, hx x (by simp), hlast⟩

theorem exists_of_failure? {x : Gathered Engine (World τ) α} {f : Failure}
    (h : x.failure? = some f) : ∃ i, (i, .error f) ∈ x.outcomes := by
  obtain ⟨⟨i, r⟩, hmem, hr⟩ := List.exists_of_findSome?_eq_some h
  cases r with
  | ok y => cases hr
  | error g =>
    cases hr
    exact ⟨i, hmem⟩

theorem mem_of_outcome? {x : Gathered Engine (World τ) α} {i : Nat} {r : Outcome α}
    (h : x.outcome? i = some r) : (i, r) ∈ x.outcomes := by
  obtain ⟨⟨j, r'⟩, hfind, rfl⟩ := Option.map_eq_some_iff.mp h
  have hj := List.find?_some hfind
  simp only [decide_eq_true_eq] at hj
  exact hj ▸ List.mem_of_find?_eq_some hfind

section
variable {r : Session τ} {f : Failure}

/-- What a session fails with on registering its triggers, where each is registered reliably. -/
theorem failure_of_register
    (h : ∀ t ∈ r.config.triggers, ∀ baseUrl, Reliable r.surroundings (Engine.register baseUrl t))
    (hf : r.register.1 = .error f) :
    f.BeyondCheck ∨ ∃ x, (World.handler r.surroundings).Gives x ∧ AnswersWith f x := by
  simp only [Session.register, Session.gather] at hf
  split at hf
  · next hfailed =>
    cases hf
    obtain ⟨i, hmem⟩ := exists_of_failure? hfailed
    refine Reliable.failure_of_outcome ?_ hmem
    intro s hs
    obtain ⟨t, ht, rfl⟩ := List.mem_map.mp hs
    exact h t ht _
  · cases hf

theorem failure_of_execute {j : Job} {u : Update} (h : Reliable r.surroundings (runJob j u))
    (hf : (r.execute j u).1 = .error f) :
    f.BeyondCheck ∨ ∃ x, (World.handler r.surroundings).Gives x ∧ AnswersWith f x := by
  simp only [Session.execute, Session.gather] at hf
  cases hend : (Gathering.run {} (fun _ _ => World.handler r.surroundings)
      (sequenceCalls j.steps) [runJob j u] r.clock r.world).outcome? 0 with
  | none =>
    rw [hend] at hf
    cases hf
    exact .inl ⟨by simp, by simp, by simp⟩
  | some outcome =>
    rw [hend] at hf
    obtain rfl : outcome = .error f := hf
    refine Reliable.failure_of_outcome ?_ (mem_of_outcome? hend)
    intro s hs
    obtain rfl := List.mem_singleton.mp hs
    exact h

end

/-- With a configuration that was checked, the standard functions, and at least the configured
trackers, the registration of any trigger and any run of any job fail only beyond the check: not for
an unknown tracker, a malformed action name or a template with a fault that the parser reports. A
tracker may still answer with any failure, which is then the last exchange and passed on as it is. -/
theorem checked_config_fails_beyond_check (r : Session τ) (env : Dict String)
    (hfs : r.surroundings.functions = .standard env) (hchecked : r.config.faults = [])
    (hnames : ∀ name ∈ r.config.trackerNames, name ∈ r.surroundings.trackers.names) :
    (∀ t ∈ r.config.triggers, ∀ baseUrl, Reliable r.surroundings (Engine.register baseUrl t)) ∧
    (∀ j ∈ r.config.jobs, ∀ u, Reliable r.surroundings (runJob j u)) ∧
    ∀ f, (r.register.1 = .error f ∨ ∃ j ∈ r.config.jobs, ∃ u, (r.execute j u).1 = .error f) →
      f.BeyondCheck ∨ ∃ x, (World.handler r.surroundings).Gives x ∧ AnswersWith f x := by
  have hregister : ∀ t ∈ r.config.triggers, ∀ baseUrl,
      Reliable r.surroundings (Engine.register baseUrl t) := by
    intro t ht baseUrl
    obtain ⟨htracker, hvars⟩ := Config.checked_trigger hchecked ht
    exact reliable_register hfs (hnames _ htracker) hvars baseUrl
  have hrun : ∀ j ∈ r.config.jobs, ∀ u, Reliable r.surroundings (runJob j u) := by
    intro j hj u
    exact reliable_runJob hfs (Step.AllChecked.mono hnames _ (Config.checked_job hchecked hj)) u
  refine ⟨hregister, hrun, ?_⟩
  rintro f (hf | ⟨j, hj, u, hf⟩)
  · exact failure_of_register hregister hf
  · exact failure_of_execute (hrun j hj u) hf

/-- A session with a board that is always closed. -/
def closedBoard : Session Unit where
  config :=
    { server := { baseUrl := "http://localhost" }
      trackers := [{ name := "board", plugin := { address := "localhost:9000" } }]
      triggers := [{ name := "opened", tracker := "board" }]
      jobs := [{
        name := "forward", triggerName := "opened"
        steps := [.branch "eq .Update.Title \"bug\""
          [.action {
            name := ⟨"board", "open"⟩
            vars := .ofList [("title", "\x7b\x7b .Update.Title \x7d\x7d")] }]] }] }
  surroundings :=
    { functions := .standard .empty
      trackers :=
        { names := ["board"]
          call := fun tracker r s =>
            ({ settle := fun s => (.error (.unsupportedMethod tracker r.method), s) }, s)
          subscribe := fun _ _ s => ({ settle := fun s => (.ok "1", s) }, s)
          unsubscribe := fun _ _ s => ({ settle := fun s => (.ok (), s) }, s)
          handleWebhook := fun _ _ _ s => ({ settle := fun s => (.ok none, s) }, s) }
      ticketId := fun n => "t" ++ toString n
      subscriptionId := fun n => "s" ++ toString n
      createdAt := fun _ => default }
  world := { store := .memory {}, trackers := () }

theorem closedBoard_fails_beyond_check :
    closedBoard.surroundings.functions = .standard .empty ∧ closedBoard.config.faults = [] ∧
    (∀ name ∈ closedBoard.config.trackerNames, name ∈ closedBoard.surroundings.trackers.names) ∧
    (∀ j ∈ closedBoard.config.jobs, ∀ u, Reliable closedBoard.surroundings (runJob j u)) ∧
    ∃ j ∈ closedBoard.config.jobs, ∃ u f, (closedBoard.execute j u).1 = .error f ∧
      f = .unsupportedMethod "board" "open" ∧
      (f.BeyondCheck ∨ ∃ x, (World.handler closedBoard.surroundings).Gives x ∧ AnswersWith f x) := by
  have hchecked : closedBoard.config.faults = [] := by decide +kernel
  have hnames : ∀ name ∈ closedBoard.config.trackerNames,
      name ∈ closedBoard.surroundings.trackers.names := by
    intro name hname
    exact hname
  obtain ⟨-, hrun, hfailure⟩ :=
    checked_config_fails_beyond_check closedBoard .empty rfl hchecked hnames
  refine ⟨rfl, hchecked, hnames, hrun, ?_⟩
  have hend : ∀ j ∈ closedBoard.config.jobs,
      (closedBoard.execute j { content := { title := "bug" } }).1 =
        .error (.unsupportedMethod "board" "open") := by decide +kernel
  have hj := List.mem_singleton_self (closedBoard.config.jobs.head (by simp [closedBoard]))
  exact ⟨_, hj, _, _, hend _ hj, rfl, hfailure _ (.inr ⟨_, hj, _, hend _ hj⟩)⟩

end Engine

end TicketSync
