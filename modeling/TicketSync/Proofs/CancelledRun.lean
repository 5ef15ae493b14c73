import TicketSync.Proofs.CourseLookup

/-! # How a cancelled run stops

Between two calls a run looks at its token, whatever branches end or begin there, and so it does
between the look-up of its ticket and the first step and before it stores the ticket. A run that is
cancelled at its look-up or during a call therefore asks for nothing more: at most the answer that
it waits for comes, and then the token is looked at. -/
namespace TicketSync.Engine

/-- Whether a question is a call of a tracker. -/
def Question.isCall : Question → Bool
  | .call .. => true
  | _ => false

/-- Whether a run looks at its token after a question: the look-up of the ticket and the calls. -/
def Question.opensStep : Question → Bool
  | .findTicket _ | .call .. => true
  | _ => false

/-- Whether an exchange is anything but a look-up that fails. To find no ticket is no failure. -/
def lookUpSucceeds : Exchange Engine → Bool
  | ⟨.findTicket _, .error f⟩ => f.isNotFound
  | _ => true

/-! ### A run looks at its token after each call -/

/-- A script that looks at its token next. -/
def Watches (s : Script Engine Ticket) : Prop := ∃ next, s = .ask .isCancelled next

/-- A script that looks at its token after the look-up of the ticket and after every call, unless
they fail. -/
inductive Watchful : Script Engine Ticket → Prop
  | ended (r : Outcome Ticket) : Watchful (.ofOutcome r)
  | ask {q : Question} {next : q.Answer → Script Engine Ticket}
      (watches : q.opensStep = true → ∀ a, failure? ⟨q, a⟩ = none → Watches (next a))
      (goes : ∀ a, Watchful (next a)) : Watchful (.ask q next)

/-- A question whose answer goes on with a value or is a failure. -/
theorem Watchful.ask_outcome {α : Type} {q : Question} {read : q.Answer → Outcome α}
    {next : q.Answer → Script Engine Ticket} {k : α → Script Engine Ticket}
    (hnext : ∀ a, next a = (Script.ofOutcome (read a)).bind k) (hk : ∀ x, Watchful (k x))
    (hwatches : q.opensStep = true →
      (∀ x, Watches (k x)) ∧ ∀ a, failure? ⟨q, a⟩ = none → ∃ x, read a = .ok x) :
    Watchful (.ask q next) := by
  refine .ask ?_ ?_
  · intro hq a ha
    obtain ⟨hstep, hvalue⟩ := hwatches hq
    obtain ⟨x, hx⟩ := hvalue a ha
    rw [hnext, hx]
    exact hstep x
  · intro a
    rw [hnext]
    cases read a with
    | ok x => exact hk x
    | error f => exact .ended (.error f)

theorem watches_checkpoint (k : Unit → Script Engine Ticket) : Watches (checkpoint.bind k) :=
  ⟨_, rfl⟩

theorem watchful_checkpoint {k : Unit → Script Engine Ticket} (hk : Watchful (k ())) :
    Watchful (checkpoint.bind k) := by
  refine @Watchful.ask_outcome Unit .isCancelled (fun c => if c then .error .cancelled else .ok ())
    _ k ?_ (fun _ => hk) (fun h => by cases h)
  intro a
  cases a <;> rfl

theorem watchful_requireTracker (name : String) {k : Unit → Script Engine Ticket}
    (hk : Watchful (k ())) : Watchful ((requireTracker name).bind k) := by
  refine @Watchful.ask_outcome Unit (.isRegistered name)
    (fun known => if known then .ok () else .error (.trackerNotRegistered name)) _ k ?_
    (fun _ => hk) (fun h => by cases h)
  intro a
  cases a <;> rfl

theorem watchful_save (t : Ticket) : Watchful (save t) := by
  cases ht : t.isPersisted with
  | true =>
    simp only [save, ht, if_true]
    exact @Watchful.ask_outcome Unit (.updateTicket t) id _ (fun _ => .done t) (fun _ => rfl)
      (fun _ => .ended (.ok t)) (fun h => by cases h)
  | false =>
    simp only [save, ht, Bool.false_eq_true, if_false]
    exact @Watchful.ask_outcome String (.createTicket t) id _ (fun id => .done { t with id })
      (fun _ => rfl) (fun id => .ended (.ok { t with id })) (fun h => by cases h)

section
variable {k : Ticket → Script Engine Ticket} (hk : ∀ t, Watches (k t) ∧ Watchful (k t))
include hk

theorem watchful_resolve (source : Locator) : Watchful ((resolve source).bind k) := by
  refine @Watchful.ask_outcome Ticket (.findTicket (.locator source)) foundOrNew _ k ?_
    (fun t => (hk t).2) (fun _ => ⟨fun t => (hk t).1, ?_⟩)
  · intro a
    cases a with
    | ok t => rfl
    | error f => cases hf : f.isNotFound <;> simp [foundOrNew, hf, Script.ofOutcome]
  · intro a ha
    cases a with
    | ok t => exact ⟨t, rfl⟩
    | error f =>
      cases hf : f.isNotFound with
      | true => exact ⟨{}, by simp [foundOrNew, hf]⟩
      | false => simp [failure?, hf] at ha

theorem watchful_runAction (u : Update) (a : Action) (t : Ticket) :
    Watchful ((runAction u a t).bind k) := by
  have hcall : ∀ vars, Watchful (.ask (.call a.name.tracker (a.request vars t)) fun r =>
      (Script.ofOutcome r).bind fun id => k (a.link t id)) := by
    intro vars
    refine @Watchful.ask_outcome String _ id _ (fun id => k (a.link t id)) (fun _ => rfl)
      (fun id => (hk _).2) (fun _ => ⟨fun id => (hk _).1, ?_⟩)
    intro r hr
    cases r with
    | ok id => exact ⟨id, rfl⟩
    | error f => cases hr
  have hrender : Watchful (.ask (.render a.vars u t) fun r =>
      (Script.ofOutcome r).bind fun vars => (requireTracker a.name.tracker).bind fun _ =>
        .ask (.call a.name.tracker (a.request vars t)) fun r =>
          (Script.ofOutcome r).bind fun id => k (a.link t id)) :=
    @Watchful.ask_outcome Vars _ id _ _ (fun _ => rfl)
      (fun vars => watchful_requireTracker _ (hcall vars)) (fun h => by cases h)
  simpa [runAction, inquire, Script.bind_assoc] using hrender
end

mutual
theorem watchful_runStep (u : Update) (s : Step) (t : Ticket) {k : Ticket → Script Engine Ticket}
    (hk : ∀ t, Watches (k t) ∧ Watchful (k t)) : Watchful ((runStep u s t).bind k) := by
  cases s with
  | action a => exact watchful_runAction hk u a t
  | branch condition steps =>
    have hbranch : Watchful (.ask (.condition condition u t) fun r =>
        (Script.ofOutcome r).bind fun holds =>
          (if holds then runSteps u steps t else .done t).bind k) := by
      refine @Watchful.ask_outcome Bool _ id _ _ (fun _ => rfl) ?_ (fun h => by cases h)
      intro holds
      cases holds with
      | true => exact (watchful_runSteps u steps t hk).2
      | false => exact (hk t).2
    simpa [runStep, inquire, Script.bind_assoc] using hbranch

/-- Steps begin with a look at the token. Where there is none, what follows them does. -/
theorem watchful_runSteps (u : Update) (steps : List Step) (t : Ticket)
    {k : Ticket → Script Engine Ticket} (hk : ∀ t, Watches (k t) ∧ Watchful (k t)) :
    Watches ((runSteps u steps t).bind k) ∧ Watchful ((runSteps u steps t).bind k) := by
  cases steps with
  | nil => simpa [runSteps] using hk t
  | cons s rest =>
    have hstep := watchful_runStep u s t fun t => watchful_runSteps u rest t hk
    have hscript : (runSteps u (s :: rest) t).bind k = checkpoint.bind fun _ =>
        (runStep u s t).bind fun t => (runSteps u rest t).bind k := by
      simp [runSteps, Script.bind_assoc]
    rw [hscript]
    exact ⟨watches_checkpoint _, watchful_checkpoint hstep⟩
end

theorem watchful_runJob (j : Job) (u : Update) : Watchful (runJob j u) := by
  have hend : ∀ t, Watches (checkpoint.bind fun _ => save t) ∧
      Watchful (checkpoint.bind fun _ => save t) := fun t =>
    ⟨watches_checkpoint _, watchful_checkpoint (watchful_save t)⟩
  exact watchful_resolve (fun t => watchful_runSteps u j.steps (t.patch u) hend) _

/-! ### What follows a call -/

section
variable {q : Question} {next : q.Answer → Script Engine Ticket} {s s' : Script Engine Ticket}
  {xs : List (Exchange Engine)}

theorem Watchful.answered (h : Watchful (.ask q next)) :
    (∀ a, Watchful (next a)) ∧
      (q.opensStep = true → ∀ a, failure? ⟨q, a⟩ = none → Watches (next a)) := by
  generalize hs : (Script.ask q next : Script Engine Ticket) = s at h
  cases h with
  | ended r => cases r <;> cases hs
  | ask watches goes =>
    cases hs
    exact ⟨goes, watches⟩

theorem Watchful.leads (h : Watchful s) (hleads : s.Leads xs s') : Watchful s' := by
  induction hleads with
  | refl s => exact h
  | ask a rest ih => exact ih (h.answered.1 a)

theorem Orderly.not_fail {f : Failure} : ¬Orderly (.fail f) := by
  intro h
  cases h

/-- Until it asks once more, a run has only read. -/
theorem Orderly.quiet_before (h : Orderly s) (hleads : s.Leads xs (.ask q next)) :
    (∀ x ∈ xs, Quiet x) ∧ Orderly (.ask q next) := by
  generalize hs : (Script.ask q next : Script Engine Ticket) = s' at hleads
  induction hleads with
  | refl s => exact ⟨by simp, hs ▸ h⟩
  | @ask q' next' a xs s' rest ih =>
    subst hs
    cases h with
    | look reads goes fails =>
      cases ha : failure? ⟨q', a⟩ with
      | none =>
        obtain ⟨hquiet, hleft⟩ := ih (goes a ha) rfl
        exact ⟨List.forall_mem_cons.mpr ⟨⟨ha, reads⟩, hquiet⟩, hleft⟩
      | some f =>
        rw [fails a f ha] at rest
        cases (Script.leads_fail_iff.mp rest).2
    | create t new => cases a <;> cases rest
    | update t known => cases a <;> cases rest

/-- What a script does after an exchange in which it may have been cancelled: it ends with the
failure of the exchange, or looks at its token and would end as cancelled. -/
def Heeds (x : Exchange Engine) (s : Script Engine Ticket) : Prop :=
  match failure? x with
  | some f => s = .fail f
  | none => ∃ next, s = .ask .isCancelled next ∧ next true = .fail .cancelled

theorem heeds_of_orderly (horderly : Orderly (.ask q next)) (hwatchful : Watchful (.ask q next))
    (hq : q.opensStep = true) (a : q.Answer) : Heeds ⟨q, a⟩ (next a) := by
  cases horderly with
  | create t new => cases hq
  | update t known => cases hq
  | look reads goes fails =>
    unfold Heeds
    cases ha : failure? ⟨q, a⟩ with
    | some f => exact fails a f ha
    | none =>
      obtain ⟨next', hnext⟩ := hwatchful.answered.2 hq a ha
      have hgoes := goes a ha
      rw [hnext] at hgoes
      cases hgoes with
      | look reads' goes' fails' => exact ⟨next', hnext, fails' true .cancelled rfl⟩

end

/-! ### The last turns -/

namespace Course

variable {τ : Type} {e : Surroundings τ} {j : Job} {u : Update} {w : World τ} {c : Course τ}

/-- The questions that a run has asked. The last one may be unanswered. -/
def asked (c : Course τ) : List Question :=
  c.exchanges.map (·.question) ++
    match c.task with
    | .waiting q _ _ => [q]
    | .ready _ => []

/-- How many calls of trackers a run has begun. -/
def calls (c : Course τ) : Nat := c.asked.countP Question.isCall

/-- The failure of the last call of a tracker, if it failed. -/
def lastCallFailure? (c : Course τ) : Option Failure :=
  (c.exchanges.filter (·.question.isCall)).getLast?.bind failure?

/-- A run whose token is cancelled, after so many calls and during the last of them: nothing else
was asked since. Before any call this is before the first step. -/
structure Interrupted (k : Nat) (c : Course τ) : Prop where
  cancelled : c.world.isCancelled = true
  calls : c.calls = k
  moment : ∀ q, c.asked.getLast? = some q → q.opensStep = true

/-- Where a run is from the moment at which it was cancelled, and how many turns it has left at
most. -/
inductive Stopping (e : Surroundings τ) : Nat → Course τ → Prop
  | looks {l : Locator} {next : Outcome Ticket → Script Engine Ticket} {w : World τ}
      (heeds : ∀ a, Heeds ⟨.findTicket (.locator l), a⟩ (next a)) :
      Stopping e 2 ⟨.ready (.ask (.findTicket (.locator l)) next), w, []⟩
  | waits {q : Question} {next : q.Answer → Script Engine Ticket} {asked w : World τ}
      {xs : List (Exchange Engine)} (opens : q.opensStep = true)
      (heeds : ∀ a, Heeds ⟨q, a⟩ (next a)) (quiet : ∀ x ∈ xs, Quiet x) :
      Stopping e 2 ⟨.waiting q (World.handler e q asked).1 next, w, xs⟩
  | watches {next : Bool → Script Engine Ticket} {w : World τ} {xs : List (Exchange Engine)}
      (heeds : next true = .fail .cancelled) (quiet : ∀ x ∈ xs, Quiet x) :
      Stopping e 1 ⟨.ready (.ask .isCancelled next), w, xs⟩
  | failed {x : Exchange Engine} {f : Failure} {w : World τ} {xs : List (Exchange Engine)}
      (opens : x.question.opensStep = true) (last : failure? x = some f) :
      Stopping e 0 ⟨.ready (.fail f), w, xs ++ [x]⟩
  | cancelled {w : World τ} {xs : List (Exchange Engine)}
      (answered : ∀ x ∈ xs, x.question.isCall = true → failure? x = none) :
      Stopping e 0 ⟨.ready (.fail .cancelled), w, xs⟩

theorem Stopping.world {n : Nat} (h : Stopping e n c) (w : World τ) :
    Stopping e n { c with world := w } := by
  cases h with
  | looks heeds => exact .looks heeds
  | waits opens heeds quiet => exact .waits opens heeds quiet
  | watches heeds quiet => exact .watches heeds quiet
  | failed opens last => exact .failed opens last
  | cancelled answered => exact .cancelled answered

theorem isWrite_of_opensStep {q : Question} (h : q.opensStep = true) : q.isWrite = false := by
  cases q <;> first | rfl | cases h

/-- After its look-up or a call a run has one more turn at most. -/
theorem stopping_of_heeds {x : Exchange Engine} {s : Script Engine Ticket}
    {xs : List (Exchange Engine)} (hx : x.question.opensStep = true) (hs : Heeds x s)
    (hquiet : ∀ y ∈ xs, Quiet y) (w : World τ) :
    ∃ n ≤ 1, Stopping e n ⟨.ready s, w, xs ++ [x]⟩ := by
  unfold Heeds at hs
  split at hs
  · next f hf =>
    subst hs
    exact ⟨0, Nat.zero_le 1, .failed hx hf⟩
  · next hnone =>
    obtain ⟨next, rfl, hstop⟩ := hs
    refine ⟨1, Nat.le_refl 1, .watches hstop ?_⟩
    intro y hy
    rcases List.mem_append.mp hy with hy | hy
    · exact hquiet y hy
    · rw [List.mem_singleton.mp hy]
      exact ⟨hnone, isWrite_of_opensStep hx⟩

/-- A run that was cancelled has only looked for its ticket and at its token since. -/
structure Winds (c d : Course τ) : Prop where
  store : d.world.store = c.world.store
  cancelled : d.world.isCancelled = true
  asked : ∃ more, d.asked = c.asked ++ more ∧
    ∀ q ∈ more, q = .isCancelled ∨ ∃ l, q = .findTicket l

theorem Winds.refl (h : c.world.isCancelled = true) : Winds c c :=
  ⟨rfl, h, [], by simp, by simp⟩

theorem Winds.trans {c d f : Course τ} (h : Winds c d) (h' : Winds d f) : Winds c f := by
  obtain ⟨more, hasked, hidle⟩ := h.asked
  obtain ⟨more', hasked', hidle'⟩ := h'.asked
  refine ⟨h'.store.trans h.store, h'.cancelled, more ++ more', ?_, ?_⟩
  · rw [hasked', hasked, List.append_assoc]
  · intro q hq
    exact (List.mem_append.mp hq).elim (hidle q) (hidle' q)

/-- The answer to the look-up or to a call leaves the store alone and the token cancelled. -/
theorem answer_keeps {q : Question} (hq : q.opensStep = true) (asked w : World τ) :
    ((World.handler e q asked).1.finish w).2.store = w.store ∧
      (w.isCancelled = true → ((World.handler e q asked).1.finish w).2.isCancelled = true) := by
  refine ⟨((World.handler_sameStore e (isWrite_of_opensStep hq) asked).2 w).store, ?_⟩
  intro hw
  cases q with
  | findTicket q => exact hw
  | call tracker r =>
    have hkept : ((World.handler e (.call tracker r) asked).1.finish w).2.isCancelled =
        (w.isCancelled || (true && (e.trackers.call tracker r asked.trackers).1.cancels)) := rfl
    rw [hkept, hw]
    rfl
  | _ => cases hq

theorem Stopping.own {n : Nat} (h : Stopping e n c) (hcancelled : c.world.isCancelled = true) :
    (∃ m ≤ n - 1, Stopping e m (c.turn e .own)) ∧ Winds c (c.turn e .own) := by
  cases h with
  | @looks l next w heeds =>
    let answered := (World.handler e).atOnce (.findTicket (.locator l)) w
    have hturn : Course.turn e ⟨.ready (.ask (.findTicket (.locator l)) next), w, []⟩ .own =
        ⟨.ready (next answered.1), answered.2,
          [] ++ [⟨.findTicket (.locator l), answered.1⟩]⟩ := rfl
    rw [hturn]
    refine ⟨stopping_of_heeds rfl (heeds _) (by simp) _, ?_, ?_, [.findTicket (.locator l)], rfl,
      by simp⟩
    · exact (@World.handler_sameStore τ e (.findTicket (.locator l)) rfl w).1.store
    · show (w.guarded .getTicket fun w => (w.store.getTicket (.locator l), w)).2.isCancelled = true
      unfold World.guarded
      split <;> exact hcancelled
  | @waits q next asked w xs opens heeds quiet =>
    obtain ⟨hstore, hkept⟩ := answer_keeps (e := e) opens asked w
    refine ⟨stopping_of_heeds opens (heeds _) quiet _, hstore, hkept hcancelled, [], ?_, by simp⟩
    simp [Course.turn, Task.step, Task.exchange?, Course.asked]
  | @watches next w xs heeds quiet =>
    have hturn : Course.turn e ⟨.ready (.ask .isCancelled next), w, xs⟩ .own =
        ⟨.ready (next w.isCancelled), w, xs ++ [⟨.isCancelled, w.isCancelled⟩]⟩ := rfl
    rw [show w.isCancelled = true from hcancelled, heeds] at hturn
    rw [hturn]
    refine ⟨⟨0, Nat.le_refl 0, .cancelled ?_⟩, rfl, hcancelled, [.isCancelled], ?_, by simp⟩
    · intro x hx hcall
      rcases List.mem_append.mp hx with hx | hx
      · exact (quiet x hx).1
      · rw [List.mem_singleton.mp hx] at hcall
        cases hcall
    · simp [Course.asked]
  | failed opens last =>
    rw [turn_own_of_ended rfl]
    exact ⟨⟨0, Nat.le_refl 0, .failed opens last⟩, .refl hcancelled⟩
  | cancelled answered =>
    rw [turn_own_of_ended rfl]
    exact ⟨⟨0, Nat.le_refl 0, .cancelled answered⟩, .refl hcancelled⟩

/-- Something beside a run that does not take the cancellation of its token back. -/
def Steady : Turn τ → Prop
  | .own => True
  | .aside a => ∀ w, w.isCancelled = true → (a.change w).isCancelled = true

/-- Whether a turn is one of the run. -/
def isOwn : Turn τ → Bool
  | .own => true
  | .aside _ => false

/-- A run that is stopping stops with its turns, whatever happens between them. -/
theorem Stopping.after {n : Nat} (h : Stopping e n c) (hcancelled : c.world.isCancelled = true)
    {later : List (Turn τ)} (hsteady : ∀ t ∈ later, Steady t) :
    (∃ m ≤ n - later.countP isOwn, Stopping e m (c.after e later)) ∧ Winds c (c.after e later) := by
  induction later generalizing n c with
  | nil => exact ⟨⟨n, Nat.le_refl n, h⟩, .refl hcancelled⟩
  | cons t later ih =>
    obtain ⟨ht, hlater⟩ := List.forall_mem_cons.mp hsteady
    cases t with
    | own =>
      obtain ⟨⟨m, hm, hstops⟩, hwinds⟩ := h.own hcancelled
      obtain ⟨⟨m', hm', hstops'⟩, hwinds'⟩ := ih hstops hwinds.cancelled hlater
      refine ⟨⟨m', ?_, hstops'⟩, hwinds.trans hwinds'⟩
      rw [List.countP_cons_of_pos rfl]
      omega
    | aside a =>
      have hkept := ht c.world hcancelled
      obtain ⟨⟨m, hm, hstops⟩, hwinds⟩ := ih (h.world (a.change c.world)) hkept hlater
      refine ⟨⟨m, ?_, hstops⟩, .trans ⟨a.store_change _, hkept, [], ?_, by simp⟩ hwinds⟩
      · rwa [List.countP_cons_of_neg (by simp [isOwn])]
      · simp [asked]

/-! ### The moment of the cancellation -/

theorem asked_eq {begun : Script Engine Ticket} {asked : List (Dialogue.Question Engine)}
    (h : Task.CameFrom (World.handler e) begun asked c.exchanges c.task) : c.asked = asked := by
  obtain ⟨task, world, xs⟩ := c
  cases h with
  | ready leads => simp [Course.asked]
  | waiting s leads slow => simp [Course.asked]

theorem store_of_turn {q? : Option (Dialogue.Question Engine)} {x? : Option (Exchange Engine)}
    {w w' : World τ} (h : Task.Turn (World.handler e) w q? x? w')
    (hasked : ∀ q, q? = some q → q.isWrite = false)
    (hanswered : ∀ x, x? = some x → x.question.isWrite = false) : w'.store = w.store := by
  cases h with
  | rest => rfl
  | prompt q now =>
    obtain ⟨hsame, hkept⟩ := World.handler_sameStore e (hasked q rfl) w
    exact (hkept _).store.trans hsame.store
  | asked q slow => exact (World.handler_sameStore e (hasked q rfl) w).1.store
  | answered q asked slow => exact ((World.handler_sameStore e (hanswered _ rfl) asked).2 w).store

/-- What a course has asked, and that the store is as it was if it asked for no write. -/
structure Reads (e : Surroundings τ) (j : Job) (u : Update) (w : World τ) (c : Course τ) :
    Prop where
  came : Task.CameFrom (World.handler e) (runJob j u) c.asked c.exchanges c.task
  store : (∀ q ∈ c.asked, q.isWrite = false) → c.world.store = w.store

theorem Reads.turn (h : Reads e j u w c) (t : Turn τ) : Reads e j u w (c.turn e t) := by
  cases t with
  | aside a => exact ⟨h.came, fun hreads => (a.store_change _).trans (h.store hreads)⟩
  | own =>
    have hcame := h.came.step c.world
    have hasked : (c.turn e .own).asked = c.asked ++ c.task.question?.toList := asked_eq hcame
    refine ⟨hasked ▸ hcame, fun hreads => ?_⟩
    have hbefore : ∀ q ∈ c.asked, q.isWrite = false := fun q hq =>
      hreads q (hasked ▸ List.mem_append_left _ hq)
    refine (store_of_turn (h.came.turn c.world) ?_ ?_).trans (h.store hbefore)
    · intro q hq
      exact hreads q (hasked ▸ List.mem_append_right _ (by simp [hq]))
    · intro x hx
      have hmem : x ∈ (c.turn e .own).exchanges := List.mem_append_right _ (by simp [hx])
      exact hreads _ (List.mem_append_left _ (List.mem_map_of_mem hmem))

theorem reads_after (e : Surroundings τ) (j : Job) (u : Update) (w : World τ)
    (turns : List (Turn τ)) : Reads e j u w ((start j u w).after e turns) := by
  have hrun : ∀ c : Course τ, Reads e j u w c → Reads e j u w (c.after e turns) := by
    induction turns with
    | nil => exact fun c hc => hc
    | cons t turns ih => exact fun c hc => ih _ (hc.turn t)
  exact hrun _ ⟨.start _ _, fun _ => rfl⟩

theorem heeds_of_leads {q : Question} {next : q.Answer → Script Engine Ticket}
    {xs : List (Exchange Engine)} (hleads : (runJob j u).Leads xs (.ask q next))
    (hq : q.opensStep = true) : (∀ x ∈ xs, Quiet x) ∧ ∀ a, Heeds ⟨q, a⟩ (next a) := by
  obtain ⟨hquiet, horderly⟩ := (orderly_runJob j u).quiet_before hleads
  exact ⟨hquiet, heeds_of_orderly horderly ((watchful_runJob j u).leads hleads) hq⟩

/-- A run that was cancelled at its look-up or during a call has two more turns at most, and has
only read. -/
theorem Interrupted.stopping {k : Nat} (h : Interrupted k c) (hreads : Reads e j u w c) :
    (∃ n ≤ 2, Stopping e n c) ∧ ∀ q ∈ c.asked, q.isWrite = false := by
  have hmoment := h.moment
  have hcame := hreads.came
  obtain ⟨asked, hasked⟩ : ∃ asked : List (Dialogue.Question Engine), c.asked = asked := ⟨_, rfl⟩
  rw [hasked] at hmoment hcame ⊢
  obtain ⟨task, world, xs⟩ := c
  cases hcame with
  | @ready _ script leads =>
    rcases List.eq_nil_or_concat xs with rfl | ⟨before, x, hxs⟩
    · obtain ⟨next, hnext⟩ : ∃ next,
          runJob j u = .ask (.findTicket (.locator u.receivedFrom)) next := ⟨_, rfl⟩
      have hleads : (runJob j u).Leads [] (.ask (.findTicket (.locator u.receivedFrom)) next) :=
        hnext ▸ .refl _
      have hheeds := (heeds_of_leads hleads rfl).2
      obtain rfl := leads.unique (.refl _)
      rw [hnext]
      exact ⟨⟨2, Nat.le_refl 2, .looks hheeds⟩, by simp⟩
    · rw [List.concat_eq_append] at hxs
      subst hxs
      have hopens := hmoment x.question (by simp)
      obtain ⟨next, hbefore, hafter⟩ := leads.split
      obtain ⟨hquiet, hheeds⟩ := heeds_of_leads hbefore hopens
      obtain rfl := hafter.unique (.refl _)
      obtain ⟨n, hn, hstops⟩ := stopping_of_heeds (e := e) hopens (hheeds _) hquiet world
      refine ⟨⟨n, Nat.le_succ_of_le hn, hstops⟩, ?_⟩
      intro q hq
      simp only [List.map_append, List.map_cons, List.map_nil, List.mem_append, List.mem_map,
        List.mem_singleton] at hq
      rcases hq with ⟨y, hy, rfl⟩ | rfl
      · exact (hquiet y hy).2
      · exact isWrite_of_opensStep hopens
  | @waiting _ q next s leads slow =>
    have hopens := hmoment q (by simp)
    obtain ⟨hquiet, hheeds⟩ := heeds_of_leads leads hopens
    refine ⟨⟨2, Nat.le_refl 2, .waits hopens hheeds hquiet⟩, ?_⟩
    intro q' hq'
    simp only [List.mem_append, List.mem_map, List.mem_singleton] at hq'
    rcases hq' with ⟨y, hy, rfl⟩ | rfl
    · exact (hquiet y hy).2
    · exact isWrite_of_opensStep hopens

theorem lastCallFailure?_concat {task : Task Engine (World τ) Ticket} {x : Exchange Engine}
    {xs : List (Exchange Engine)} (hx : x.question.isCall = true) :
    (Course.mk task w (xs ++ [x])).lastCallFailure? = failure? x := by
  simp [lastCallFailure?, hx]

theorem lastCallFailure?_of_answered
    (h : ∀ x ∈ c.exchanges, x.question.isCall = true → failure? x = none) :
    c.lastCallFailure? = none := by
  unfold lastCallFailure?
  cases hlast : (c.exchanges.filter (·.question.isCall)).getLast? with
  | none => rfl
  | some x =>
    obtain ⟨hx, hcall⟩ := List.mem_filter.mp (List.mem_of_getLast? hlast)
    exact h x hx hcall

/-- How a run that was stopped ended: with the failure of its last call, or as cancelled. -/
theorem Stopping.outcome {n : Nat} (h : Stopping e n c) {r : Outcome Ticket}
    (hr : c.task.outcome? = some r)
    (hlookUp : ∀ x ∈ c.exchanges, lookUpSucceeds x = true) :
    r = .error (c.lastCallFailure?.getD .cancelled) := by
  cases h with
  | looks => cases hr
  | waits => cases hr
  | watches => cases hr
  | cancelled answered =>
    obtain rfl := Option.some.inj hr
    rw [lastCallFailure?_of_answered answered]
    rfl
  | @failed x f w xs opens last =>
    obtain rfl := Option.some.inj hr
    obtain ⟨q, a⟩ := x
    cases q with
    | call tracker request =>
      rw [lastCallFailure?_concat rfl, last]
      rfl
    | findTicket q =>
      cases a with
      | ok t => cases last
      | error g =>
        have hg : g.isNotFound = true := hlookUp _ (List.mem_append_right _ List.mem_cons_self)
        simp [failure?, hg] at last
    | _ => cases opens

theorem Stopping.ended (h : Stopping e 0 c) : ∃ r, c.task.outcome? = some r := by
  cases h with
  | failed opens last => exact ⟨_, rfl⟩
  | cancelled answered => exact ⟨_, rfl⟩

/-- A run that is cancelled before its first step or during a call makes no other call, decides no
further condition, renders no further variables and writes nothing. It has ended two turns later,
as the answer to its look-up or to the call may still come and the token is looked at then. It ends
with the failure of that call, and if the call did not fail, as cancelled. -/
theorem cancelled_run_stops (e : Surroundings τ) (j : Job) (u : Update) (w : World τ)
    (turns later : List (Turn τ)) (k : Nat) (h : Interrupted k ((start j u w).after e turns))
    (hsteady : ∀ t ∈ later, Steady t) :
    let c := (start j u w).after e turns
    let d := c.after e later
    d.calls = k ∧
    (∃ more, d.asked = c.asked ++ more ∧ ∀ q ∈ more, q = .isCancelled ∨ ∃ l, q = .findTicket l) ∧
    d.world.store = w.store ∧
    (2 ≤ later.countP isOwn → ∃ r, d.task.outcome? = some r) ∧
    ∀ r, d.task.outcome? = some r → (∀ x ∈ d.exchanges, lookUpSucceeds x = true) →
      r = .error (d.lastCallFailure?.getD .cancelled) := by
  intro c d
  have hreads := reads_after e j u w turns
  obtain ⟨⟨n, hn, hstops⟩, hread⟩ := h.stopping hreads
  obtain ⟨⟨m, hm, hstopped⟩, hwinds⟩ := hstops.after h.cancelled hsteady
  obtain ⟨more, hasked, hidle⟩ := hwinds.asked
  refine ⟨?_, hwinds.asked, hwinds.store.trans (hreads.store hread), ?_, ?_⟩
  · have hnone : more.countP Question.isCall = 0 := by
      rw [List.countP_eq_zero]
      intro q hq
      rcases hidle q hq with rfl | ⟨l, rfl⟩ <;> simp [Question.isCall]
    have hcalls : c.calls = k := h.calls
    show d.asked.countP Question.isCall = k
    rw [show d.asked = c.asked ++ more from hasked, List.countP_append, hnone, Nat.add_zero]
    exact hcalls
  · intro hturns
    obtain rfl : m = 0 := by omega
    exact hstopped.ended
  · intro r hr hlookUp
    exact hstopped.outcome hr hlookUp

/-- The cancellation of the token. -/
def cancelling : Aside τ := ⟨fun w => { w with isCancelled := true }, fun _ => rfl⟩

/-- The turns of a run up to the cancellation of its token. -/
def cancelledAtTurn (n : Nat) : List (Turn Nat) := List.replicate n .own ++ [.aside cancelling]

/-- The job that opens a task and moves it, up to the call in its branch, which waits for its answer
when the token is cancelled. -/
def interruptedMove : Course Nat :=
  (start moveTask { receivedFrom := ⟨"mail", "1"⟩ } { store := .memory {}, trackers := 0 }).after
    board (cancelledAtTurn 12)

/-- The step behind the branch is not begun any more. -/
theorem interruptedMove_stops :
    Interrupted 2 interruptedMove ∧
    (interruptedMove.after board [.own, .own]).calls = 2 ∧
    (interruptedMove.after board [.own, .own]).world.store = .memory {} ∧
    (interruptedMove.after board [.own, .own]).task.outcome? = some (.error .cancelled) := by
  have hmoment : Interrupted 2 interruptedMove := by
    have hlast : interruptedMove.asked.getLast?.map Question.opensStep = some true := rfl
    refine ⟨rfl, rfl, ?_⟩
    intro q hq
    rw [hq] at hlast
    exact Option.some.inj hlast
  have hsteady : ∀ t ∈ [(.own : Turn Nat), .own], Steady t := by simp [Steady]
  obtain ⟨hcalls, -, hstore, hends, houtcome⟩ := cancelled_run_stops board moveTask
    { receivedFrom := ⟨"mail", "1"⟩ } { store := .memory {}, trackers := 0 }
    (cancelledAtTurn 12) [.own, .own] 2 hmoment hsteady
  obtain ⟨r, hr⟩ := hends (Nat.le_refl 2)
  have hall : (interruptedMove.after board [.own, .own]).exchanges.all lookUpSucceeds = true := rfl
  have hsame := houtcome r hr (List.all_eq_true.mp hall)
  refine ⟨hmoment, hcalls, hstore, hr.trans ?_⟩
  rw [hsame]
  rfl

end Course
end TicketSync.Engine
