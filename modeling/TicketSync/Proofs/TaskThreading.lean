import TicketSync.Engine.World
import TicketSync.Engine.Run
import TicketSync.Proofs.RenderedVars
import TicketSync.Proofs.ScriptTrace

/-! # Task ids through a run

A run of a job is told here by its deeds: the calls that it made and the conditions that it decided,
each with the ticket that it found. What that ticket says is stated from the deeds before it, by the
latest call of each tracker that returned an id, and not by how the run hands the ticket on. Each
question of a run then belongs to one deed, from the look-up of the ticket to its storing. -/
namespace TicketSync

/-- What a step of a run did: a call of an action, for a ticket, with the variables and the task id
that the tracker got and the id that it returned; or the decision of a condition for a ticket. -/
inductive Deed where
  | called (a : Action) (t : Ticket) (vars : Vars) (task returned : String)
  | decided (condition : String) (t : Ticket) (holds : Bool)

namespace Deed

/-- The id that a deed links a tracker to: the one that a call which is not detached returned,
unless it is empty. -/
def link? (tracker : String) : Deed → Option String
  | called a _ _ _ returned =>
    if a.detached = false ∧ a.name.tracker = tracker ∧ returned ≠ "" then some returned else none
  | decided .. => none

/-- The id of the latest link of a tracker. -/
def latestLink (deeds : List Deed) (tracker : String) : Option String :=
  deeds.reverse.findSome? (link? tracker)

/-- The exchanges of a deed: a look at the token, what is evaluated for the update and the ticket,
and the call itself. -/
def exchanges (u : Update) : Deed → List (Exchange Engine)
  | called a t vars task returned =>
    [⟨.isCancelled, false⟩, ⟨.render a.vars u t, .ok vars⟩, ⟨.isRegistered a.name.tracker, true⟩,
      ⟨.call a.name.tracker ⟨a.name.method, vars, task⟩, .ok returned⟩]
  | decided condition t holds => [⟨.isCancelled, false⟩, ⟨.condition condition u t, .ok holds⟩]

end Deed

mutual
/-- The deeds of a step: an action is called, and a branch is decided and taken if it holds. -/
def Step.Does : Step → List Deed → Prop
  | .action a, deeds => ∃ t vars task returned, deeds = [.called a t vars task returned]
  | .branch condition steps, deeds => ∃ t holds inner, deeds = .decided condition t holds :: inner ∧
      if holds then Step.AllDo steps inner else inner = []

/-- The deeds of steps one after the other. -/
def Step.AllDo : List Step → List Deed → Prop
  | [], deeds => deeds = []
  | s :: rest, deeds => ∃ first later, deeds = first ++ later ∧ s.Does first ∧ Step.AllDo rest later
end

/-- The task id that a tracker has for the ticket of a run after deeds: that of its latest link, or
the one that the update came with, or the one that the ticket had. -/
def knownTaskId (found : Ticket) (u : Update) (deeds : List Deed) (tracker : String) : String :=
  match Deed.latestLink deeds tracker with
  | some id => id
  | none => if tracker = u.receivedFrom.tracker then u.receivedFrom.id else found.taskId tracker

/-- The ticket of a run for an update after deeds, where `found` is the one that it began with. -/
structure Ticket.After (t found : Ticket) (u : Update) (deeds : List Deed) : Prop where
  id : t.id = found.id
  participants : ∀ tracker, t.variations.contains tracker = true ↔
    tracker = u.receivedFrom.tracker ∨ found.variations.contains tracker = true ∨
      (Deed.latestLink deeds tracker).isSome = true
  taskId : ∀ tracker, t.taskId tracker = knownTaskId found u deeds tracker
  content : ∀ tracker, (t.variation tracker).content =
    if tracker = u.receivedFrom.tracker then u.content else (found.variation tracker).content

/-- A deed after others: it found the ticket as these left it, variables and conditions have the
values that they have for this ticket, and a call got the task id known for its tracker, or none
when it is detached. -/
def Deed.Follows (fs : Template.Functions) (found : Ticket) (u : Update) (before : List Deed) :
    Deed → Prop
  | called a t vars task _ => t.After found u before ∧ a.vars.evaluate fs u t = .ok vars ∧
      vars.evaluated = true ∧ task = if a.detached then "" else knownTaskId found u before a.name.tracker
  | decided condition t holds => t.After found u before ∧ evalCondition fs condition u t = .ok holds

/-- Deeds that each follow those before. -/
def Deed.AllFollow (fs : Template.Functions) (found : Ticket) (u : Update) :
    (before deeds : List Deed) → Prop
  | _, [] => True
  | before, d :: rest =>
    d.Follows fs found u before ∧ Deed.AllFollow fs found u (before ++ [d]) rest

/-! ### The ticket after one more deed -/

section
variable {found t : Ticket} {u : Update} {before : List Deed}

theorem Deed.latestLink_concat (d : Deed) (tracker : String) :
    latestLink (before ++ [d]) tracker = (d.link? tracker).or (latestLink before tracker) := by
  simp [latestLink, List.findSome?_cons]
  cases d.link? tracker <;> rfl

namespace Ticket

theorem variation_insert (t : Ticket) (tracker : String) (v : Variation) (other : String) :
    variation { t with variations := t.variations.insert tracker v } other =
      if tracker = other then v else t.variation other := by
  by_cases h : tracker = other <;> simp [variation, Dict.get?_insert, h]

theorem after_patch (found : Ticket) (u : Update) : (found.patch u).After found u [] where
  id := rfl
  participants tracker := by
    rw [patch, Dict.contains_insert, eq_comm]
    simp [Deed.latestLink]
  taskId tracker := by
    rw [taskId, patch, variation_insert, knownTaskId]
    by_cases h : u.receivedFrom.tracker = tracker
    · simp [h, Deed.latestLink]
    · simp [h, Ne.symm h, Deed.latestLink, taskId]
  content tracker := by
    rw [patch, variation_insert]
    by_cases h : u.receivedFrom.tracker = tracker
    · simp [h]
    · simp [h, Ne.symm h]

/-- A deed that links no tracker leaves the ticket as it is. -/
theorem After.unlinked (h : t.After found u before) {d : Deed}
    (hd : ∀ tracker, d.link? tracker = none) :
    t.After found u (before ++ [d]) where
  id := h.id
  participants tracker := by
    rw [h.participants, Deed.latestLink_concat, hd, Option.none_or]
  taskId tracker := by
    rw [h.taskId, knownTaskId, knownTaskId, Deed.latestLink_concat, hd, Option.none_or]
  content := h.content

theorem After.linked (h : t.After found u before) {d : Deed} {tracker returned : String}
    (hd : ∀ other, d.link? other = if tracker = other then some returned else none) :
    (t.setTaskId tracker returned).After found u (before ++ [d]) where
  id := h.id
  participants other := by
    rw [setTaskId, Dict.contains_insert, h.participants, Deed.latestLink_concat, hd]
    by_cases hother : tracker = other
    · simp [hother]
    · simp [hother]
  taskId other := by
    have hvariation := t.variation_insert tracker { t.variation tracker with id := returned } other
    rw [Ticket.taskId, setTaskId, hvariation, knownTaskId, Deed.latestLink_concat, hd]
    by_cases hother : tracker = other
    · simp [hother]
    · simp only [hother, if_false, Option.none_or]
      exact h.taskId other
  content other := by
    rw [setTaskId, variation_insert, ← h.content]
    by_cases hother : tracker = other
    · simp [hother]
    · simp [hother]

theorem After.called (h : t.After found u before) (a : Action) (vars : Vars)
    (task returned : String) :
    (a.link t returned).After found u (before ++ [.called a t vars task returned]) := by
  cases hdetached : a.detached with
  | true =>
    have hlink : a.link t returned = t := by simp [Action.link, hdetached]
    rw [hlink]
    exact h.unlinked fun tracker => by simp [Deed.link?, hdetached]
  | false =>
    by_cases hempty : returned = ""
    · have hlink : a.link t returned = t := by simp [Action.link, hempty]
      rw [hlink]
      exact h.unlinked fun tracker => by simp [Deed.link?, hempty]
    · have hlink : a.link t returned = t.setTaskId a.name.tracker returned := by
        simp [Action.link, hdetached, hempty]
      rw [hlink]
      exact h.linked fun other => by simp [Deed.link?, hdetached, hempty]

theorem After.decided (h : t.After found u before) (condition : String) (holds : Bool) :
    t.After found u (before ++ [.decided condition t holds]) :=
  h.unlinked fun _ => rfl

end Ticket
end

/-! ### The deeds of a run -/

theorem Deed.allFollow_append {fs : Template.Functions} {found : Ticket} {u : Update}
    {before first later : List Deed} (hfirst : AllFollow fs found u before first)
    (hlater : AllFollow fs found u (before ++ first) later) :
    AllFollow fs found u before (first ++ later) := by
  induction first generalizing before with
  | nil => simpa using hlater
  | cons d first ih => exact ⟨hfirst.1, ih hfirst.2 (by simpa using hlater)⟩

theorem Deed.AllFollow.at {fs : Template.Functions} {found : Ticket} {u : Update}
    {before first later : List Deed} {d : Deed}
    (h : AllFollow fs found u before (first ++ d :: later)) :
    d.Follows fs found u (before ++ first) := by
  induction first generalizing before with
  | nil => simpa using h.1
  | cons e first ih => simpa using ih h.2

/-- A script that goes on with the value of an outcome comes to its end only if there is a value. -/
theorem Script.leads_ofOutcome_bind {D : Dialogue} {α β : Type} {r : Outcome α}
    {k : α → Script D β} {xs : List (Exchange D)} {y : β}
    (h : ((ofOutcome r).bind k).Leads xs (done y)) : ∃ x, r = .ok x ∧ (k x).Leads xs (done y) := by
  cases r with
  | ok x => exact ⟨x, rfl, h⟩
  | error f => simp [ofOutcome] at h

namespace Engine

/-- An exchange in which variables and conditions have the values that they have for the update and
the ticket. -/
def Evaluates (fs : Template.Functions) : Exchange Engine → Prop
  | ⟨.render vars u t, r⟩ => r = vars.evaluate fs u t
  | ⟨.condition text u t, r⟩ => r = evalCondition fs text u t
  | _ => True

theorem World.handler_evaluates {τ : Type} (e : Surroundings τ) :
    (World.handler e).Keeps (Evaluates e.functions) := by
  intro q w w'
  cases q <;> first | rfl | trivial

theorem leads_checkpoint_bind {α : Type} {k : Unit → Script Engine α} {xs : List (Exchange Engine)}
    {y : α} (h : (checkpoint.bind k).Leads xs (.done y)) :
    ∃ ys, xs = ⟨.isCancelled, false⟩ :: ys ∧ (k ()).Leads ys (.done y) := by
  obtain ⟨cancelled, ys, rfl, hrest⟩ := Script.leads_ask_ended (r := .ok y) h
  cases cancelled with
  | true => simp [Script.ofOutcome] at hrest
  | false => exact ⟨ys, rfl, hrest⟩

theorem leads_requireTracker_bind {α : Type} {name : String} {k : Unit → Script Engine α}
    {xs : List (Exchange Engine)} {y : α} (h : ((requireTracker name).bind k).Leads xs (.done y)) :
    ∃ ys, xs = ⟨.isRegistered name, true⟩ :: ys ∧ (k ()).Leads ys (.done y) := by
  obtain ⟨registered, ys, rfl, hrest⟩ := Script.leads_ask_ended (r := .ok y) h
  cases registered with
  | true => exact ⟨ys, rfl, hrest⟩
  | false => simp [Script.ofOutcome] at hrest

variable {fs : Template.Functions} {found t t' : Ticket} {u : Update} {before : List Deed}
  {xs : List (Exchange Engine)}

theorem leads_runAction {a : Action} (h : (runAction u a t).Leads xs (.done t')) :
    ∃ vars returned, t' = a.link t returned ∧
      xs = [⟨.render a.vars u t, .ok vars⟩, ⟨.isRegistered a.name.tracker, true⟩,
        ⟨.call a.name.tracker (a.request vars t), .ok returned⟩] := by
  simp only [runAction, inquire, Script.bind_eq, Script.ask_bind, Script.done_bind] at h
  obtain ⟨rendered, ys, rfl, hrendered⟩ := Script.leads_ask_ended (r := .ok t') h
  obtain ⟨vars, rfl, hrequire⟩ := Script.leads_ofOutcome_bind hrendered
  obtain ⟨zs, rfl, hcall⟩ := leads_requireTracker_bind hrequire
  obtain ⟨answer, us, rfl, hanswered⟩ := Script.leads_ask_ended (r := .ok t') hcall
  obtain ⟨returned, rfl, hend⟩ := Script.leads_ofOutcome_bind hanswered
  obtain ⟨rfl, hlinked⟩ := Script.leads_done_iff.mp hend
  exact ⟨vars, returned, Script.done.inj hlinked, rfl⟩

/-- Exchanges that are those of deeds, which begin after others and leave a ticket behind. -/
structure Tells (fs : Template.Functions) (found : Ticket) (u : Update) (before deeds : List Deed)
    (xs : List (Exchange Engine)) (t : Ticket) : Prop where
  exchanges : xs = deeds.flatMap (·.exchanges u)
  follow : Deed.AllFollow fs found u before deeds
  after : t.After found u (before ++ deeds)

theorem Tells.append {first later : List Deed} {ys : List (Exchange Engine)}
    (hfirst : Tells fs found u before first xs t)
    (hlater : Tells fs found u (before ++ first) later ys t') :
    Tells fs found u before (first ++ later) (xs ++ ys) t' where
  exchanges := by rw [hfirst.exchanges, hlater.exchanges, List.flatMap_append]
  follow := Deed.allFollow_append hfirst.follow hlater.follow
  after := by simpa using hlater.after

theorem tells_runAction (ht : t.After found u before) {a : Action}
    (h : (runAction u a t).Leads xs (.done t')) (hx : ∀ x ∈ xs, Evaluates fs x) :
    ∃ deeds, (Step.action a).Does deeds ∧
      Tells fs found u before deeds (⟨.isCancelled, false⟩ :: xs) t' := by
  obtain ⟨vars, returned, rfl, rfl⟩ := leads_runAction h
  have hvars : a.vars.evaluate fs u t = .ok vars := (hx _ List.mem_cons_self).symm
  refine ⟨[.called a t vars (if a.detached then "" else t.taskId a.name.tracker) returned],
    ⟨t, vars, _, returned, rfl⟩, ?_, ?_, ht.called a vars _ returned⟩
  · simp [Deed.exchanges, Action.request]
  · refine ⟨⟨ht, hvars, Vars.evaluated_of_evaluate hvars, ?_⟩, trivial⟩
    rw [ht.taskId]

mutual
theorem tells_runStep (s : Step) {before : List Deed} {t t' : Ticket} {xs : List (Exchange Engine)}
    (ht : t.After found u before) (h : (runStep u s t).Leads xs (.done t'))
    (hx : ∀ x ∈ xs, Evaluates fs x) :
    ∃ deeds, s.Does deeds ∧ Tells fs found u before deeds (⟨.isCancelled, false⟩ :: xs) t' := by
  cases s with
  | action a => exact tells_runAction ht h hx
  | branch condition steps =>
    simp only [runStep, inquire, Script.bind_eq, Script.ask_bind, Script.done_bind] at h
    obtain ⟨answer, ys, rfl, hanswered⟩ := Script.leads_ask_ended (r := .ok t') h
    obtain ⟨holds, rfl, hrest⟩ := Script.leads_ofOutcome_bind hanswered
    have hholds : evalCondition fs condition u t = .ok holds := (hx _ List.mem_cons_self).symm
    have hdecided := ht.decided condition holds
    have hone : Tells fs found u before [.decided condition t holds]
        [⟨.isCancelled, false⟩, ⟨.condition condition u t, .ok holds⟩] t :=
      ⟨by simp [Deed.exchanges], ⟨⟨ht, hholds⟩, trivial⟩, hdecided⟩
    cases holds with
    | true =>
      obtain ⟨inner, hdo, htells⟩ := tells_runSteps steps hdecided hrest
        fun x hmem => hx x (List.mem_cons_of_mem _ hmem)
      exact ⟨_, ⟨t, true, inner, rfl, hdo⟩, hone.append htells⟩
    | false =>
      obtain ⟨rfl, hsame⟩ := Script.leads_done_iff.mp hrest
      obtain rfl := Script.done.inj hsame
      exact ⟨_, ⟨_, false, [], rfl, rfl⟩, hone⟩

theorem tells_runSteps (steps : List Step) {before : List Deed} {t t' : Ticket}
    {xs : List (Exchange Engine)} (ht : t.After found u before)
    (h : (runSteps u steps t).Leads xs (.done t')) (hx : ∀ x ∈ xs, Evaluates fs x) :
    ∃ deeds, Step.AllDo steps deeds ∧ Tells fs found u before deeds xs t' := by
  cases steps with
  | nil =>
    obtain ⟨rfl, hsame⟩ := Script.leads_done_iff.mp h
    obtain rfl := Script.done.inj hsame
    exact ⟨[], rfl, rfl, trivial, by simpa using ht⟩
  | cons s rest =>
    obtain ⟨ys, rfl, hrest⟩ := leads_checkpoint_bind h
    have hys := fun x hmem => hx x (List.mem_cons_of_mem _ hmem)
    rcases Script.leads_bind_ended (r := .ok t') hrest with
      ⟨f, hf, -⟩ | ⟨m, us, vs, rfl, hone, hmore⟩
    · cases hf
    · obtain ⟨first, hdoes, htells⟩ := tells_runStep s ht hone
        fun x hmem => hys x (List.mem_append_left _ hmem)
      obtain ⟨later, hdo, htells'⟩ := tells_runSteps rest htells.after hmore
        fun x hmem => hys x (List.mem_append_right _ hmem)
      exact ⟨first ++ later, ⟨first, later, rfl, hdoes, hdo⟩, htells.append htells'⟩
end

/-! ### Whole runs -/

/-- How a run stores the ticket that deeds leave behind, and ends with it: in place of the one found,
or as a new one under the id that it gets. -/
inductive Saves (found : Ticket) (u : Update) (deeds : List Deed) : Exchange Engine → Ticket → Prop
  | updated {t : Ticket} (known : found.id ≠ "") (after : t.After found u deeds) :
      Saves found u deeds ⟨.updateTicket t, .ok ()⟩ t
  | created {t : Ticket} {id : String} (new : found.id = "") (after : t.After found u deeds) :
      Saves found u deeds ⟨.createTicket t, .ok id⟩ { t with id }

/-- The exchanges of a run that ended with a ticket: the look-up of the ticket, the deeds of the
steps of the job, each as those before it left the ticket, a last look at the token, and the storing
of the ticket as all deeds left it. -/
structure Threads (fs : Template.Functions) (j : Job) (u : Update) (xs : List (Exchange Engine))
    (t : Ticket) (looked : Outcome Ticket) (found : Ticket) (deeds : List Deed)
    (saved : Exchange Engine) : Prop where
  lookup : looked = .ok found ∨ found = {} ∧ ∃ f : Failure, looked = .error f ∧ f.isNotFound = true
  exchanges : xs = ⟨.findTicket (.locator u.receivedFrom), looked⟩ ::
    deeds.flatMap (·.exchanges u) ++ [⟨.isCancelled, false⟩, saved]
  steps : Step.AllDo j.steps deeds
  follows : ∀ before d later, deeds = before ++ d :: later → d.Follows fs found u before
  saves : Saves found u deeds saved t

theorem saves_of_leads {deeds : List Deed} (ht : t.After found u deeds)
    (h : (save t).Leads xs (.done t')) : ∃ saved, xs = [saved] ∧ Saves found u deeds saved t' := by
  cases hid : t.isPersisted with
  | true =>
    simp only [save, hid, inquire, if_true, Script.bind_eq, Script.ask_bind, Script.done_bind] at h
    obtain ⟨answer, ys, rfl, hanswered⟩ := Script.leads_ask_ended (r := .ok t') h
    obtain ⟨⟨⟩, rfl, hend⟩ := Script.leads_ofOutcome_bind hanswered
    obtain ⟨rfl, hsame⟩ := Script.leads_done_iff.mp hend
    obtain rfl := Script.done.inj hsame
    refine ⟨_, rfl, .updated ?_ ht⟩
    rw [← ht.id]
    simpa [Ticket.isPersisted] using hid
  | false =>
    simp only [save, hid, inquire, Bool.false_eq_true, if_false, Script.bind_eq, Script.ask_bind,
      Script.done_bind] at h
    obtain ⟨answer, ys, rfl, hanswered⟩ := Script.leads_ask_ended (r := .ok t') h
    obtain ⟨id, rfl, hend⟩ := Script.leads_ofOutcome_bind hanswered
    obtain ⟨rfl, hsame⟩ := Script.leads_done_iff.mp hend
    obtain rfl := Script.done.inj hsame
    refine ⟨_, rfl, .created ?_ ht⟩
    rw [← ht.id]
    simpa [Ticket.isPersisted] using hid

theorem lookup_of_leads {source : Locator} (h : (resolve source).Leads xs (.done t)) :
    ∃ looked, xs = [⟨.findTicket (.locator source), looked⟩] ∧ (looked = .ok t ∨
      t = {} ∧ ∃ f : Failure, looked = .error f ∧ f.isNotFound = true) := by
  obtain ⟨looked, ys, rfl, hanswered⟩ := Script.leads_ask_ended (r := .ok t) h
  cases looked with
  | ok found =>
    obtain ⟨rfl, hsame⟩ := Script.leads_done_iff.mp hanswered
    exact ⟨_, rfl, .inl (congrArg Except.ok (Script.done.inj hsame).symm)⟩
  | error f =>
    cases hf : f.isNotFound with
    | true =>
      simp only [Script.done_bind, hf, if_true] at hanswered
      obtain ⟨rfl, hsame⟩ := Script.leads_done_iff.mp hanswered
      exact ⟨_, rfl, .inr ⟨Script.done.inj hsame, f, rfl, hf⟩⟩
    | false => simp [hf, Script.ofOutcome] at hanswered

theorem threads_of_leads {j : Job} (h : (runJob j u).Leads xs (.done t))
    (hx : ∀ x ∈ xs, Evaluates fs x) :
    ∃ looked found deeds saved, Threads fs j u xs t looked found deeds saved := by
  rcases Script.leads_bind_ended (r := .ok t) h with ⟨f, hf, -⟩ | ⟨found, us, vs, rfl, hlook, hrun⟩
  · cases hf
  obtain ⟨looked, rfl, hlooked⟩ := lookup_of_leads hlook
  have hvs := fun x hmem => hx x (List.mem_append_right _ hmem)
  rcases Script.leads_bind_ended (r := .ok t) hrun with ⟨f, hf, -⟩ | ⟨m, ys, zs, rfl, hsteps, hend⟩
  · cases hf
  obtain ⟨deeds, hdo, htells⟩ := tells_runSteps j.steps (Ticket.after_patch found u) hsteps
    fun x hmem => hvs x (List.mem_append_left _ hmem)
  obtain ⟨rest, rfl, hsave⟩ := leads_checkpoint_bind hend
  obtain ⟨saved, rfl, hsaves⟩ := saves_of_leads htells.after hsave
  refine ⟨looked, found, deeds, saved, hlooked, ?_, hdo, ?_, hsaves⟩
  · simp [htells.exchanges]
  · rintro before d later rfl
    exact htells.follow.at

/-- In every successful run of a job for an update, each call gets the task id of the latest link of
its tracker by an earlier call of the run, else the one that came with the update, else the one that
the found ticket had, and none when it is detached; variables and conditions are evaluated for the
ticket as the deeds before left it; and the ticket as all of them left it is stored. Every run that
ends with a ticket on a clock, alone or among others, has such exchanges. -/
theorem run_threads_task_ids {τ : Type} (e : Surroundings τ) (j : Job) (u : Update) :
    (∀ xs t, (runJob j u).Leads xs (.done t) → (∀ x ∈ xs, Evaluates e.functions x) →
      ∃ looked found deeds saved, Threads e.functions j u xs t looked found deeds saved) ∧
    ∀ (g : Gathering) moments scripts now (w : World τ) i t, scripts[i]? = some (runJob j u) →
      (i, .ok t) ∈ (g.run (fun _ _ => World.handler e) moments scripts now w).outcomes →
      ∃ xs, (runJob j u).Leads xs (.done t) ∧
        ∃ looked found deeds saved, Threads e.functions j u xs t looked found deeds saved := by
  refine ⟨fun xs t h hx => threads_of_leads h hx, ?_⟩
  intro g moments scripts now w i t hscript hend
  rcases Gathering.outcome_leads (fun _ _ => World.handler_evaluates e) g moments scripts now w hend
    with ⟨l, hl⟩ | ⟨script, hget, xs, hleads, hx⟩
  · cases hl
  · obtain rfl := Option.some.inj (hget.symm.trans hscript)
    exact ⟨xs, hleads, threads_of_leads hleads hx⟩

/-- A board that numbers its calls. -/
def board : Surroundings Nat where
  functions := .empty
  trackers :=
    { names := ["board"]
      call := fun _ _ n => ({ delay := some 5, settle := fun n => (.ok (toString n), n + 1) }, n)
      subscribe := fun _ _ n => ({ settle := fun n => (.ok "", n) }, n)
      unsubscribe := fun _ _ n => ({ settle := fun n => (.ok (), n) }, n)
      handleWebhook := fun _ _ _ n => ({ settle := fun n => (.ok none, n) }, n) }
  ticketId n := "t" ++ toString n
  subscriptionId n := "s" ++ toString n
  createdAt _ := default

/-- A job that opens a task on the board, notes this without a link, and moves the task. -/
def moveTask : Job :=
  { name := "move", triggerName := "mail"
    steps := [.action { name := ⟨"board", "open"⟩ },
      .branch "true" [.action { name := ⟨"board", "note"⟩, detached := true }],
      .action { name := ⟨"board", "move"⟩ }] }

/-- The ticket of a mail after its task was moved, which was the third call. -/
def moved : Ticket :=
  { id := "t1", variations := (Dict.empty.insert "mail" ⟨"1", {}⟩).insert "board" ⟨"2", {}⟩ }

theorem moved_threads :
    let scripts := [runJob moveTask { receivedFrom := ⟨"mail", "1"⟩ }]
    let w : World Nat := { store := .memory {}, trackers := 0 }
    scripts[0]? = some (runJob moveTask { receivedFrom := ⟨"mail", "1"⟩ }) ∧
    (0, .ok moved) ∈ (Gathering.run {} (fun _ _ => World.handler board) 3 scripts 0 w).outcomes ∧
    ∃ xs, (runJob moveTask { receivedFrom := ⟨"mail", "1"⟩ }).Leads xs (.done moved) ∧
      ∃ looked found deeds saved,
        Threads board.functions moveTask { receivedFrom := ⟨"mail", "1"⟩ } xs moved looked found
          deeds saved := by
  intro scripts w
  have hmem : (0, .ok moved) ∈
      (Gathering.run {} (fun _ _ => World.handler board) 3 scripts 0 w).outcomes := by
    decide +kernel
  exact ⟨rfl, hmem, (run_threads_task_ids board moveTask _).2 {} 3 scripts 0 w 0 moved rfl hmem⟩

end Engine
end TicketSync
