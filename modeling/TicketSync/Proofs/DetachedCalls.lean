import TicketSync.Engine.Run
import TicketSync.Engine.World
import TicketSync.Proofs.ScriptTrace

/-! # Detached calls are invisible

The questions of a run are ascribed here to the actions that they are asked for, so that the calls
of detached actions can be told from others, which look alike to a tracker. A run drops the id that
such a call returns: it goes on in one way, whatever the id. Two runs that are answered alike but
for these ids therefore ask the same and end in the same way. -/
namespace TicketSync.Engine

/-- A question of a run and the action that it is asked for, if it is asked for one. -/
structure Ascribed where
  question : Question
  action : Option Action

/-- The dialogue of a run whose questions are ascribed. -/
abbrev Ascribing : Dialogue := ⟨Ascribed, fun q => q.question.Answer⟩

variable {α β τ τ' : Type} {u : Update}

/-- A script with all its questions ascribed to one action, or to none. -/
def ascribe (a : Option Action) (s : Script Engine α) : Script Ascribing α :=
  s.relay fun q => .ask ⟨q, a⟩ .done

/-- A script with its questions not ascribed to anything. -/
def anonymous (s : Script Ascribing α) : Script Engine α :=
  s.relay fun q : Ascribed => inquire q.question

mutual
/-- A step for an update, with what its actions ask ascribed to them. -/
def ascribedStep (u : Update) : Step → Ticket → Script Ascribing Ticket
  | .action a, t => ascribe (some a) (runAction u a t)
  | .branch condition steps, t => do
    let answer ← ascribe none (inquire (.condition condition u t))
    if ← .ofOutcome answer then ascribedSteps u steps t else return t

/-- Steps one after the other, with what their actions ask ascribed to them. -/
def ascribedSteps (u : Update) : List Step → Ticket → Script Ascribing Ticket
  | [], t => return t
  | s :: rest, t => do
    ascribe none checkpoint
    ascribedSteps u rest (← ascribedStep u s t)
end

/-- A run of a job, with what its actions ask ascribed to them. -/
def ascribedJob (j : Job) (u : Update) : Script Ascribing Ticket := do
  let t ← ascribe none (resolve u.receivedFrom)
  let t ← ascribedSteps u j.steps (t.patch u)
  ascribe none (checkpoint.bind fun _ => save t)

/-! ### What is ascribed changes nothing -/

theorem anonymous_bind (s : Script Ascribing α) (f : α → Script Ascribing β) :
    anonymous (s.bind f) = (anonymous s).bind fun x => anonymous (f x) :=
  Script.relay_bind _ s f

@[simp] theorem anonymous_ascribe (a : Option Action) (s : Script Engine α) :
    anonymous (ascribe a s) = s := by
  induction s with
  | done x => rfl
  | fail f => rfl
  | ask q next ih => exact congrArg (Script.ask q) (funext ih)

theorem anonymous_ofOutcome (r : Outcome α) : anonymous (.ofOutcome r) = .ofOutcome r :=
  Script.relay_ofOutcome _ r

mutual
theorem anonymous_ascribedStep (s : Step) (t : Ticket) :
    anonymous (ascribedStep u s t) = runStep u s t := by
  cases s with
  | action a => exact anonymous_ascribe _ _
  | branch condition steps =>
    simp only [ascribedStep, runStep, Script.bind_eq, anonymous_bind, anonymous_ascribe,
      anonymous_ofOutcome]
    congr
    funext answer
    congr
    funext holds
    cases holds with
    | true => exact anonymous_ascribedSteps steps t
    | false => rfl

theorem anonymous_ascribedSteps (steps : List Step) (t : Ticket) :
    anonymous (ascribedSteps u steps t) = runSteps u steps t := by
  cases steps with
  | nil => rfl
  | cons s rest =>
    simp only [ascribedSteps, runSteps, Script.bind_eq, anonymous_bind, anonymous_ascribe,
      anonymous_ascribedStep s t]
    congr
    funext _
    congr
    funext t'
    exact anonymous_ascribedSteps rest t'
end

theorem anonymous_ascribedJob (j : Job) (u : Update) :
    anonymous (ascribedJob j u) = runJob j u := by
  simp only [ascribedJob, runJob, Script.bind_eq, anonymous_bind, anonymous_ascribe,
    anonymous_ascribedSteps]

/-- An exchange that is not ascribed to anything. -/
def anonymousExchange (x : Exchange Ascribing) : Exchange Engine := ⟨x.question.question, x.answer⟩

/-- Surroundings that answer whatever the action. -/
def ascribed (r : Responder Engine τ) : Responder Ascribing τ := fun q => r q.question

theorem run_anonymous (r : Responder Engine τ) (s : Script Ascribing α) (w : τ) :
    (anonymous s).run r w = s.run (ascribed r) w := by
  induction s generalizing w with
  | done x => rfl
  | fail f => rfl
  | ask q next ih => exact ih _ _

theorem exchanges_anonymous (r : Responder Engine τ) (s : Script Ascribing α) (w : τ) :
    (anonymous s).exchanges r w =
      (s.exchanges (ascribed r) w).map anonymousExchange := by
  induction s generalizing w with
  | done x => rfl
  | fail f => rfl
  | ask q next ih => exact congrArg (List.cons _) (ih _ _)

/-- Whatever answers a script got up to its end, it got them with its questions ascribed as well. -/
theorem leads_of_anonymous {s : Script Ascribing α} {xs : List (Exchange Engine)} {r : Outcome α}
    (h : (anonymous s).Leads xs (.ofOutcome r)) :
    ∃ ys, xs = ys.map anonymousExchange ∧ s.Leads ys (.ofOutcome r) := by
  induction s generalizing xs with
  | done x =>
    obtain ⟨rfl, hr⟩ := (Script.leads_ofOutcome_iff (r := .ok x)).mp h
    obtain rfl := Script.ofOutcome_inj.mp hr
    exact ⟨[], rfl, .refl _⟩
  | fail f =>
    obtain ⟨rfl, hr⟩ := (Script.leads_ofOutcome_iff (r := .error f)).mp h
    obtain rfl := Script.ofOutcome_inj.mp hr
    exact ⟨[], rfl, .refl _⟩
  | ask q next ih =>
    obtain ⟨a, xs, rfl, hnext⟩ := Script.leads_ask_ended h
    obtain ⟨ys, rfl, hys⟩ := ih a hnext
    exact ⟨⟨q, a⟩ :: ys, rfl, @Script.Leads.ask Ascribing _ q next a _ _ hys⟩

/-! ### Runs go on alike -/

/-- Exchanges of two runs that are the same, or that are a call of a detached action which returned
an id in both. -/
inductive Alike : Exchange Ascribing → Exchange Ascribing → Prop
  | same (x : Exchange Ascribing) : Alike x x
  | detached {a : Action} (ha : a.detached = true) (tracker : String) (r : CallRequest)
      (id id' : String) :
      Alike ⟨⟨.call tracker r, some a⟩, .ok id⟩ ⟨⟨.call tracker r, some a⟩, .ok id'⟩

/-- Two runs get answers that are alike to their questions of some kind, as long as they ask the
same. -/
def AnsweredAlike (about : Question → Bool) (xs ys : List (Exchange Ascribing)) : Prop :=
  ∀ before x after before' y after', xs = before ++ x :: after → ys = before' ++ y :: after' →
    before.map (·.question) = before'.map (·.question) → x.question = y.question →
    about x.question.question = true → Alike x y

/-- A script that goes on in one way after answers that are alike. -/
inductive Heedless : Script Ascribing α → Prop
  | ended (r : Outcome α) : Heedless (.ofOutcome r)
  | ask {q : Ascribed} {next : q.question.Answer → Script Ascribing α}
      (heeds : ∀ x y, Alike ⟨q, x⟩ ⟨q, y⟩ → next x = next y) (goes : ∀ x, Heedless (next x)) :
      Heedless (.ask q next)

theorem Alike.answer_eq {q : Ascribed} {x y : q.question.Answer}
    (h : Alike ⟨q, x⟩ ⟨q, y⟩) (hq : ∀ a ∈ q.action, a.detached = false) : x = y := by
  cases h with
  | same => rfl
  | detached ha => cases (hq _ rfl).symm.trans ha

theorem Heedless.bind {s : Script Ascribing α} {f : α → Script Ascribing β} (hs : Heedless s)
    (hf : ∀ x, Heedless (f x)) : Heedless (s.bind f) := by
  induction hs with
  | ended r =>
    cases r with
    | ok x => exact hf x
    | error e => exact .ended (.error e)
  | ask heeds goes ih =>
    exact .ask (fun x y hxy => congrArg (·.bind f) (heeds x y hxy)) ih

/-- Every question that is not asked for a detached action is heeded. -/
theorem heedless_ascribe {o : Option Action} (ho : ∀ a ∈ o, a.detached = false)
    (s : Script Engine α) : Heedless (ascribe o s) := by
  induction s with
  | done x => exact .ended (.ok x)
  | fail f => exact .ended (.error f)
  | ask q next ih =>
    refine .ask ?_ ih
    intro x y hxy
    rw [hxy.answer_eq ho]

/-- Whatever id the call of a detached action returns, the ticket stays as it was. -/
theorem heedless_runAction (u : Update) (a : Action) (t : Ticket) :
    Heedless (ascribe (some a) (runAction u a t)) := by
  cases ha : a.detached with
  | false => exact heedless_ascribe (by simp [ha]) _
  | true =>
    have hlink : ∀ id, a.link t id = t := fun id => by simp [Action.link, ha]
    -- up to the call all answers are heeded, and after it nothing is left but the ticket
    refine @Heedless.ask _ ⟨.render a.vars u t, some a⟩ _ ?_ fun rendered => ?_
    · rintro x y ⟨⟩
      rfl
    cases rendered with
    | error f => exact .ended (.error f)
    | ok vars =>
      refine @Heedless.ask _ ⟨.isRegistered a.name.tracker, some a⟩ _ ?_ fun known => ?_
      · rintro x y ⟨⟩
        rfl
      cases known with
      | false => exact .ended (.error _)
      | true =>
        refine @Heedless.ask _ ⟨.call a.name.tracker (a.request vars t), some a⟩ _ ?_
          fun returned => ?_
        · intro x y hxy
          cases hxy with
          | same => rfl
          | detached _ _ _ id id' =>
            show Script.done (a.link t id) = .done (a.link t id')
            rw [hlink, hlink]
        · cases returned with
          | error f => exact .ended (.error f)
          | ok id => exact .ended (.ok _)

mutual
theorem heedless_ascribedStep (u : Update) (s : Step) (t : Ticket) :
    Heedless (ascribedStep u s t) := by
  cases s with
  | action a => exact heedless_runAction u a t
  | branch condition steps =>
    refine (heedless_ascribe (by simp) _).bind fun answer => ?_
    cases answer with
    | error f => exact .ended (.error f)
    | ok holds =>
      cases holds with
      | true => exact heedless_ascribedSteps u steps t
      | false => exact .ended (.ok t)

theorem heedless_ascribedSteps (u : Update) (steps : List Step) (t : Ticket) :
    Heedless (ascribedSteps u steps t) := by
  cases steps with
  | nil => exact .ended (.ok t)
  | cons s rest =>
    exact (heedless_ascribe (by simp) _).bind fun _ =>
      (heedless_ascribedStep u s t).bind fun t' => heedless_ascribedSteps u rest t'
end

theorem heedless_ascribedJob (j : Job) (u : Update) : Heedless (ascribedJob j u) :=
  (heedless_ascribe (by simp) _).bind fun t =>
    (heedless_ascribedSteps u j.steps (t.patch u)).bind fun _ => heedless_ascribe (by simp) _

/-! ### Two runs -/

section
variable {about : Question → Bool} {x y : Exchange Ascribing} {xs ys : List (Exchange Ascribing)}

theorem AnsweredAlike.nil (about : Question → Bool) (ys : List (Exchange Ascribing)) :
    AnsweredAlike about [] ys := by
  intro before x after before' y after' hx
  simp at hx

theorem AnsweredAlike.cons (h : Alike x y) (hs : AnsweredAlike about xs ys) :
    AnsweredAlike about (x :: xs) (y :: ys) := by
  intro before x' after before' y' after' hx hy hbefore hq habout
  cases before with
  | nil =>
    obtain rfl := List.map_eq_nil_iff.mp hbefore.symm
    obtain ⟨rfl, -⟩ := List.cons.inj hx
    obtain ⟨rfl, -⟩ := List.cons.inj hy
    exact h
  | cons z before =>
    cases before' with
    | nil => cases hbefore
    | cons z' before' =>
      exact hs before x' after before' y' after' (List.cons.inj hx).2 (List.cons.inj hy).2
        (List.cons.inj hbefore).2 hq habout

theorem AnsweredAlike.head (h : AnsweredAlike about (x :: xs) (y :: ys))
    (hq : x.question = y.question) (habout : about x.question.question = true) : Alike x y :=
  h [] x xs [] y ys rfl rfl rfl hq habout

theorem AnsweredAlike.tail (h : AnsweredAlike about (x :: xs) (y :: ys))
    (hq : x.question = y.question) : AnsweredAlike about xs ys := by
  rintro before x' after before' y' after' rfl rfl hbefore
  exact h (x :: before) x' after (y :: before') y' after' rfl rfl (by simp [hq, hbefore])

end

/-- What a run asks and how it ends, when all that it asks is answered alike. -/
theorem Heedless.same_course {s : Script Ascribing α} (hs : Heedless s)
    {xs ys : List (Exchange Ascribing)} {r r' : Outcome α} (hx : s.Leads xs (.ofOutcome r))
    (hy : s.Leads ys (.ofOutcome r')) (h : AnsweredAlike (fun _ => true) xs ys) :
    xs.map (·.question) = ys.map (·.question) ∧ r = r' := by
  induction hs generalizing xs ys with
  | ended r₀ =>
    obtain ⟨rfl, hr⟩ := Script.leads_ofOutcome_iff.mp hx
    obtain ⟨rfl, hr'⟩ := Script.leads_ofOutcome_iff.mp hy
    exact ⟨rfl, Script.ofOutcome_inj.mp (hr.trans hr'.symm)⟩
  | @ask q next heeds goes ih =>
    obtain ⟨x, xs, rfl, hnext⟩ := Script.leads_ask_ended hx
    obtain ⟨y, ys, rfl, hnext'⟩ := Script.leads_ask_ended hy
    rw [← heeds x y (h.head rfl rfl)] at hnext'
    obtain ⟨hquestions, hr⟩ := ih x hnext hnext' (h.tail rfl)
    exact ⟨congrArg (List.cons q) hquestions, hr⟩

/-- A script that is run alone in two surroundings which answer it alike. `same` is what they have
in common, and what they answer by; what the script asks `about` they may answer by other means. -/
theorem Heedless.same_run {s : Script Ascribing α} (hs : Heedless s) {about : Question → Bool}
    {r : Responder Ascribing τ} {r' : Responder Ascribing τ'} {same : τ → τ' → Prop}
    (hafter : ∀ q w w', same w w' → same (r q w).2 (r' q w').2)
    (hanswer : ∀ q w w', same w w' → about q.question = false → (r' q w').1 = (r q w).1)
    {w : τ} {w' : τ'} (hw : same w w')
    (h : AnsweredAlike about (s.exchanges r w) (s.exchanges r' w')) :
    (s.exchanges r w).map (·.question) = (s.exchanges r' w').map (·.question) ∧
      (s.run r w).1 = (s.run r' w').1 ∧ same (s.run r w).2 (s.run r' w').2 := by
  induction hs generalizing w w' with
  | ended x =>
    cases x with
    | ok x => exact ⟨rfl, rfl, hw⟩
    | error f => exact ⟨rfl, rfl, hw⟩
  | @ask q next heeds goes ih =>
    have hnext : next (r q w).1 = next (r' q w').1 := by
      cases habout : about q.question with
      | true => exact heeds _ _ (h.head rfl habout)
      | false => rw [hanswer q w w' hw habout]
    have hlater : AnsweredAlike about ((next (r q w).1).exchanges r (r q w).2)
        ((next (r' q w').1).exchanges r' (r' q w').2) := h.tail rfl
    -- from here on it is one script in both surroundings, whatever the two answers were
    rw [← hnext] at hlater
    obtain ⟨hquestions, hresult, hsame⟩ := ih _ (hafter q w w' hw) hlater
    simp only [Script.exchanges, Script.run, List.map_cons, ← hnext]
    exact ⟨congrArg (List.cons q) hquestions, hresult, hsame⟩

/-- Whether trackers answer a question, or the token that they may cancel. -/
def Question.isOutside : Question → Bool
  | .isCancelled | .call .. | .subscribe .. | .unsubscribe .. | .handleWebhook .. => true
  | _ => false

/-- The surroundings with other trackers. -/
def Surroundings.withTrackers (e : Surroundings τ) (trackers : Trackers τ') : Surroundings τ' :=
  { e with trackers }

/-- The world with another state of trackers. -/
def World.withTrackers (w : World τ) (trackers : τ') : World τ' := { w with trackers }

/-- Worlds in which the same is stored, the same operations fail and the same was done. -/
structure World.SameRecords (w : World τ) (w' : World τ') : Prop where
  store : w'.store = w.store
  tickets : w'.tickets = w.tickets
  subscriptions : w'.subscriptions = w.subscriptions
  faults : w'.faults = w.faults
  log : w'.log = w.log

namespace World

variable {e : Surroundings τ} {trackers : Trackers τ'} {w : World τ} {w' : World τ'}

theorem sameRecords_withTrackers (w : World τ) (s : τ') : w.SameRecords (w.withTrackers s) :=
  ⟨rfl, rfl, rfl, rfl, rfl⟩

/-- The same result in both worlds, which have the same records after it. -/
def SameResult (x : α × World τ) (x' : α × World τ') : Prop := x'.1 = x.1 ∧ x.2.SameRecords x'.2

theorem SameRecords.note (hw : w.SameRecords w') (x : Event) : (w.note x).SameRecords (w'.note x) :=
  ⟨hw.store, hw.tickets, hw.subscriptions, hw.faults, congrArg (· ++ [x]) hw.log⟩

theorem SameRecords.guarded (hw : w.SameRecords w') (op : StoreOperation)
    {run : World τ → Outcome α × World τ} {run' : World τ' → Outcome α × World τ'}
    (h : SameResult (run w) (run' w')) : SameResult (w.guarded op run) (w'.guarded op run') := by
  unfold World.guarded
  rw [hw.faults]
  split
  · exact ⟨rfl, hw.note _⟩
  · exact h

theorem SameRecords.keep (hw : w.SameRecords w') (r : Outcome Store) :
    SameResult (w.keep r) (w'.keep r) := by
  cases r with
  | ok store => exact ⟨rfl, rfl, hw.tickets, hw.subscriptions, hw.faults, hw.log⟩
  | error f => exact ⟨rfl, hw⟩

theorem SameRecords.createTicket (hw : w.SameRecords w') (t : Ticket) :
    SameResult (w.createTicket e t) (w'.createTicket (e.withTrackers trackers) t) := by
  refine hw.guarded _ ?_
  rw [hw.store, hw.tickets]
  simp only [Surroundings.withTrackers]
  split
  · exact ⟨rfl, rfl, rfl, hw.subscriptions, hw.faults, congrArg (· ++ _) hw.log⟩
  · exact ⟨rfl, hw⟩

theorem SameRecords.createSubscription (hw : w.SameRecords w') (x : Subscription) :
    SameResult (w.createSubscription e x) (w'.createSubscription (e.withTrackers trackers) x) := by
  refine hw.guarded _ ?_
  rw [hw.store, hw.subscriptions]
  simp only [Surroundings.withTrackers]
  split
  · exact ⟨rfl, rfl, hw.tickets, rfl, hw.faults, congrArg (· ++ _) hw.log⟩
  · exact ⟨rfl, hw⟩

/-- The store, the functions of templates and the list of trackers answer alike. -/
theorem SameRecords.answered (hw : w.SameRecords w') (hnames : trackers.names = e.trackers.names)
    {q : Question} (hq : q.isOutside = false) :
    SameResult ((handler e).atOnce q w) ((handler (e.withTrackers trackers)).atOnce q w') := by
  cases q with
  | isCancelled => cases hq
  | call tracker r => cases hq
  | subscribe tracker r => cases hq
  | unsubscribe tracker ref => cases hq
  | handleWebhook tracker x r => cases hq
  | now => exact ⟨congrArg (fun n => e.createdAt (n + 1)) hw.subscriptions, hw⟩
  | condition text u t => exact ⟨rfl, hw⟩
  | render vars u t => exact ⟨rfl, hw⟩
  | isRegistered tracker => exact ⟨congrArg (fun l => decide (tracker ∈ l)) hnames, hw⟩
  | findTicket q => exact hw.guarded _ ⟨congrArg (fun x => x.getTicket q) hw.store, hw⟩
  | findSubscription id =>
    exact hw.guarded _ ⟨congrArg (fun x => x.getSubscription id) hw.store, hw⟩
  | listSubscriptions tracker =>
    exact hw.guarded _ ⟨congrArg (fun x => x.listSubscriptions tracker) hw.store, hw⟩
  | createTicket t => exact hw.createTicket t
  | createSubscription x => exact hw.createSubscription x
  | updateTicket t =>
    refine hw.guarded _ ?_
    rw [hw.store]
    exact (hw.note _).keep _
  | updateSubscription x =>
    refine hw.guarded _ ?_
    rw [hw.store]
    exact (hw.note _).keep _
  | deleteSubscription id =>
    refine hw.guarded _ ?_
    rw [hw.store]
    exact (hw.note _).keep _

theorem SameRecords.reply {r : Reply τ α × τ} {r' : Reply τ' α × τ'} {ownToken : Bool}
    (hw : w.SameRecords w') :
    ((w.reply r ownToken).1.finish (w.reply r ownToken).2).2.SameRecords
      ((w'.reply r' ownToken).1.finish (w'.reply r' ownToken).2).2 :=
  ⟨hw.store, hw.tickets, hw.subscriptions, hw.faults, hw.log⟩

/-- Whatever trackers answer, it is noted that they were asked, and nothing is stored. -/
theorem SameRecords.outside (hw : w.SameRecords w') {q : Question} (hq : q.isOutside = true) :
    ((handler e).atOnce q w).2.SameRecords ((handler (e.withTrackers trackers)).atOnce q w').2 := by
  cases q with
  | isCancelled => exact hw
  | call tracker r => exact (hw.note (.called tracker r)).reply
  | subscribe tracker r => exact (hw.note (.subscribed tracker r)).reply
  | unsubscribe tracker ref => exact (hw.note (.unsubscribed tracker ref)).reply
  | handleWebhook tracker x r => exact (hw.note (.passed tracker x r)).reply
  | _ => cases hq

end World

/-- The exchanges of a job that is run alone, ascribed to its actions. -/
def ascribedRecord (e : Surroundings τ) (j : Job) (u : Update) (w : World τ) :
    List (Exchange Ascribing) :=
  (ascribedJob j u).exchanges (ascribed (World.handler e).atOnce) w

theorem exchanges_runJob (e : Surroundings τ) (j : Job) (u : Update) (w : World τ) :
    (runJob j u).exchanges (World.handler e).atOnce w =
      (ascribedRecord e j u w).map anonymousExchange := by
  rw [← anonymous_ascribedJob, exchanges_anonymous, ascribedRecord]

theorem run_runJob (e : Surroundings τ) (j : Job) (u : Update) (w : World τ) :
    (runJob j u).run (World.handler e).atOnce w =
      (ascribedJob j u).run (ascribed (World.handler e).atOnce) w := by
  rw [← anonymous_ascribedJob, run_anonymous]

/-- Two runs of a job for an update that are answered alike ask the same and end in the same way,
whatever happens beside them, where every run has its questions ascribed in some way. And when a run
that is alone with a store is repeated with trackers of which only the ids that detached calls
return are others, then it has the same outcome and leaves the same store, and the log says that it
did the same. -/
theorem detached_calls_are_invisible (j : Job) (u : Update) :
    (∀ xs r, (runJob j u).Leads xs (.ofOutcome r) →
      ∃ ys, xs = ys.map anonymousExchange ∧ (ascribedJob j u).Leads ys (.ofOutcome r)) ∧
    (∀ xs ys r r', (ascribedJob j u).Leads xs (.ofOutcome r) →
      (ascribedJob j u).Leads ys (.ofOutcome r') → AnsweredAlike (fun _ => true) xs ys →
      xs.map (·.question) = ys.map (·.question) ∧ r = r') ∧
    ∀ (τ τ' : Type) (e : Surroundings τ) (trackers : Trackers τ') (w : World τ) (s : τ'),
      trackers.names = e.trackers.names →
      AnsweredAlike Question.isOutside (ascribedRecord e j u w)
        (ascribedRecord (e.withTrackers trackers) j u (w.withTrackers s)) →
      let first := (World.handler e).atOnce
      let second := (World.handler (e.withTrackers trackers)).atOnce
      ((runJob j u).exchanges first w).map (·.question) =
        ((runJob j u).exchanges second (w.withTrackers s)).map (·.question) ∧
      ((runJob j u).run first w).1 = ((runJob j u).run second (w.withTrackers s)).1 ∧
      ((runJob j u).run first w).2.store =
        ((runJob j u).run second (w.withTrackers s)).2.store ∧
      ((runJob j u).run first w).2.log = ((runJob j u).run second (w.withTrackers s)).2.log := by
  refine ⟨fun xs r h => leads_of_anonymous (anonymous_ascribedJob j u ▸ h),
    fun xs ys r r' => (heedless_ascribedJob j u).same_course, ?_⟩
  intro τ τ' e trackers w s hnames halike first second
  have hafter (q : Ascribed) (w : World τ) (w' : World τ') (hw : w.SameRecords w') :
      (ascribed first q w).2.SameRecords (ascribed second q w').2 := by
    cases hq : q.question.isOutside with
    | true => exact hw.outside hq
    | false => exact (hw.answered hnames hq).2
  have hanswer (q : Ascribed) (w : World τ) (w' : World τ') (hw : w.SameRecords w')
      (hq : q.question.isOutside = false) : (ascribed second q w').1 = (ascribed first q w).1 :=
    (hw.answered hnames hq).1
  obtain ⟨hquestions, hresult, hrecords⟩ := (heedless_ascribedJob j u).same_run hafter hanswer
    (World.sameRecords_withTrackers w s) halike
  simp only [first, second, exchanges_runJob, run_runJob, List.map_map]
  refine ⟨?_, hresult, hrecords.store.symm, hrecords.log.symm⟩
  have hanonymous := congrArg (List.map Ascribed.question) hquestions
  rwa [List.map_map, List.map_map] at hanonymous

/-- A board that answers its first call with the id of a note, and the next with that of a task. -/
def notingBoard (note : String) : Trackers Nat where
  names := ["board"]
  call _ _ n :=
    ({ settle := fun n => (.ok (if n = 0 then note else "task"), n + 1) }, n)
  subscribe _ _ n := ({ settle := fun n => (.ok "", n) }, n)
  unsubscribe _ _ n := ({ settle := fun n => (.ok (), n) }, n)
  handleWebhook _ _ _ n := ({ settle := fun n => (.ok none, n) }, n)

/-- A job that makes a note on a board, and then opens a task there. -/
def noteAndOpen : Job where
  name := "note"
  triggerName := "mail"
  steps := [.action { name := ⟨"board", "note"⟩, detached := true },
    .action { name := ⟨"board", "open"⟩ }]

/-- The id of the note is not in the call after it, and the ticket has the id of the task only. -/
theorem detached_calls_are_invisible_between :
    let e : Surroundings Nat :=
      { functions := .empty, trackers := notingBoard "a", ticketId := fun n => "t" ++ toString n
        subscriptionId := toString, createdAt := fun _ => default }
    let w : World Nat := { store := .memory {}, trackers := 0 }
    let u : Update := { receivedFrom := ⟨"mail", "1"⟩ }
    let first := (runJob noteAndOpen u).run (World.handler e).atOnce w
    let second := (runJob noteAndOpen u).run
      (World.handler (e.withTrackers (notingBoard "b"))).atOnce (w.withTrackers 0)
    first.1 = second.1 ∧ first.2.store = second.2.store ∧ first.2.log = second.2.log ∧
      first.1.map (·.taskId "board") = .ok "task" ∧ first.2.log.length = 3 := by
  intro e w u first second
  have halike : AnsweredAlike Question.isOutside (ascribedRecord e noteAndOpen u w)
      (ascribedRecord (e.withTrackers (notingBoard "b")) noteAndOpen u (w.withTrackers 0)) := by
    refine .cons (.same _) <| .cons (.same _) <| .cons (.same _) <| .cons (.same _) ?_
    refine .cons (.detached rfl _ _ _ _) ?_
    refine .cons (.same _) <| .cons (.same _) <| .cons (.same _) <| .cons (.same _) ?_
    refine .cons (.same _) <| .cons (.same _) ?_
    exact .nil _ _
  obtain ⟨-, -, hruns⟩ := detached_calls_are_invisible noteAndOpen u
  obtain ⟨-, hresult, hstore, hlog⟩ := hruns Nat Nat e (notingBoard "b") w 0 rfl halike
  refine ⟨hresult, hstore, hlog, ?_, ?_⟩
  · decide +kernel
  · decide +kernel

end TicketSync.Engine
