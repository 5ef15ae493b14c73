import TicketSync.Engine.Listening
import TicketSync.Proofs.SubscriptionRows

/-! # Listeners leave the subscriptions alone

Runs of jobs write tickets, trackers that read ask nothing of the store, and a request only looks a
subscription up. So whatever happens to the listeners, the subscriptions and the faults of the store
stay what they were when the listening began. -/
namespace TicketSync.Engine

variable {τ : Type} {e : Surroundings τ}

/-- Whether a question leaves the subscriptions alone. -/
abbrev ReadsRows (q : Dialogue.Question Engine) : Prop := Question.writesRows q = false

/-- A question that the run of a job may ask. -/
def OfRun : Dialogue.Question Engine → Prop
  | .isCancelled | .condition .. | .render .. | .findTicket _ | .createTicket _ | .updateTicket _
  | .isRegistered _ | .call .. => True
  | _ => False

theorem OfRun.readsRows {q : Dialogue.Question Engine} (h : OfRun q) : ReadsRows q := by
  cases q <;> first | rfl | cases h

/-- A question whose answer is a value to go on with or the failure of the script. -/
theorem asks_outcome {α β : Type} {p : Dialogue.Question Engine → Prop} {r : Outcome α}
    {k : α → Script Engine β} (hk : ∀ x, (k x).Asks p) : ((Script.ofOutcome r).bind k).Asks p :=
  (Script.asks_ofOutcome p r).bind hk

theorem asks_requireTracker {p : Dialogue.Question Engine → Prop} {name : String}
    (hp : p (.isRegistered name)) : (requireTracker name).Asks p := by
  refine ⟨hp, ?_⟩
  rintro (_ | _) <;> exact trivial

theorem checkpoint_ofRun : checkpoint.Asks OfRun := by
  refine ⟨trivial, ?_⟩
  rintro (_ | _) <;> exact trivial

theorem resolve_ofRun (source : Locator) : (resolve source).Asks OfRun := by
  refine ⟨trivial, ?_⟩
  rintro (f | t)
  · simp only [Script.done_bind]
    split <;> exact trivial
  · exact trivial

theorem runAction_ofRun (u : Update) (a : Action) (t : Ticket) :
    (runAction u a t).Asks OfRun := by
  refine ⟨trivial, fun r => asks_outcome (r := r) fun vars => ?_⟩
  refine Script.Asks.bind (asks_requireTracker trivial) fun _ => ?_
  exact ⟨trivial, fun r => asks_outcome (r := r) fun id => trivial⟩

mutual
theorem runStep_ofRun (u : Update) (s : Step) (t : Ticket) : (runStep u s t).Asks OfRun := by
  cases s with
  | action a => exact runAction_ofRun u a t
  | branch condition steps =>
    refine ⟨trivial, fun r => asks_outcome (r := r) fun holds => ?_⟩
    cases holds with
    | true => exact runSteps_ofRun u steps t
    | false => exact trivial

theorem runSteps_ofRun (u : Update) (steps : List Step) (t : Ticket) :
    (runSteps u steps t).Asks OfRun := by
  cases steps with
  | nil => exact trivial
  | cons s rest =>
    refine checkpoint_ofRun.bind fun _ => ?_
    exact (runStep_ofRun u s t).bind fun t => runSteps_ofRun u rest t
end

theorem save_ofRun (t : Ticket) : (save t).Asks OfRun := by
  unfold save
  split
  · exact ⟨trivial, fun r => asks_outcome (r := r) fun _ => trivial⟩
  · exact ⟨trivial, fun r => asks_outcome (r := r) fun id => trivial⟩

theorem runJob_ofRun (j : Job) (u : Update) : (runJob j u).Asks OfRun := by
  refine (resolve_ofRun _).bind fun t => (runSteps_ofRun u j.steps (t.patch u)).bind ?_
  exact fun t => checkpoint_ofRun.bind fun _ => save_ofRun t

theorem read_readsRows (tracker : String) (x : Subscription) (r : WebhookRequest) :
    (read tracker x r).Asks ReadsRows :=
  ⟨rfl, fun a => Script.asks_ofOutcome _ a⟩

theorem receive_asks {p : Dialogue.Question Engine → Prop}
    (hfind : ∀ id, p (.findSubscription id)) (h : HttpRequest) : (receive h).Asks p := by
  unfold receive
  split
  · exact trivial
  · exact trivial
  · exact trivial
  · split
    · exact trivial
    · refine ⟨hfind _, ?_⟩
      rintro (f | x) <;> exact trivial

/-! ### Sessions -/

/-- Sessions that differ in nothing that decides who a request is for. -/
structure Session.Agrees (s s' : Session τ) : Prop where
  config : s'.config = s.config
  surroundings : s'.surroundings = s.surroundings
  rows : s.world.SameRows s'.world

namespace Session.Agrees

variable {s s' s'' : Session τ}

theorem refl (s : Session τ) : s.Agrees s := ⟨rfl, rfl, .refl _⟩

theorem trans (h : s.Agrees s') (h' : s'.Agrees s'') : s.Agrees s'' :=
  ⟨h'.config.trans h.config, h'.surroundings.trans h.surroundings, h.rows.trans h'.rows⟩

theorem revoke (s : Session τ) (cancels : Bool) : s.Agrees (s.revoke cancels) :=
  ⟨rfl, rfl, World.sameRows_of_eq rfl rfl rfl⟩

theorem perform {α : Type} {script : Script Engine α} (hs : script.Asks ReadsRows)
    (s : Session τ) : s.Agrees (s.perform script).2 :=
  ⟨rfl, rfl, hs.run (World.respects_rows s.surroundings) s.world⟩

theorem of_rows {world : World τ} (h : s.world.SameRows world) : s.Agrees { s with world } :=
  ⟨rfl, rfl, h⟩

end Session.Agrees

/-! ### Tasks of listeners -/

/-- A run whose questions are those of runs. -/
def JobRun.AsksOfRun (e : Surroundings τ) (r : JobRun τ) : Prop :=
  ∀ task, r.stage = .active task → task.Asks (World.handler e) OfRun

/-- A listening tracker that only reads the subscriptions, and so do its runs. -/
structure Lane.ReadsRows (e : Surroundings τ) (l : Lane τ) : Prop where
  reading : ∀ d task, l.stage = .reading d task →
    task.Asks (World.handler e) Engine.ReadsRows
  running : ∀ r ∈ l.runs, r.AsksOfRun e

/-- Listeners that only read the subscriptions. -/
def Listening.ReadsRows (e : Surroundings τ) (x : Listening τ) : Prop :=
  ∀ l ∈ x.lanes, l.ReadsRows e

namespace JobRun.AsksOfRun

variable {s : Session τ} {r : JobRun τ}

theorem start (e : Surroundings τ) (r : JobRun τ) : r.start.AsksOfRun e := by
  rintro task ⟨⟩
  exact runJob_ofRun r.job r.update

theorem turn (hr : r.AsksOfRun s.surroundings) :
    (r.turn s).1.AsksOfRun s.surroundings ∧ s.Agrees (r.turn s).2 := by
  unfold JobRun.turn
  split
  · next task htask =>
    have hasks := hr task htask
    split
    · refine ⟨?_, .refl s⟩
      rintro task' ⟨⟩
    · have hstep := hasks.step
        ((World.respects_rows s.surroundings).mono fun _ => OfRun.readsRows) s.world
      refine ⟨?_, .of_rows hstep.2⟩
      rintro task' ⟨⟩
      exact hstep.1
  · exact ⟨hr, .refl s⟩

theorem expire (hr : r.AsksOfRun e) (limit : Nat) : (r.expire limit).AsksOfRun e := by
  unfold JobRun.expire
  split
  · rintro task' ⟨⟩
  · exact hr

end JobRun.AsksOfRun

namespace Lane.ReadsRows

variable {s : Session τ} {l : Lane τ}

theorem of_stage (hreading : ∀ d task, l.stage ≠ .reading d task)
    (hrunning : ∀ d runs, l.stage ≠ .running d runs) : l.ReadsRows e where
  reading d task hstage := absurd hstage (hreading d task)
  running r hr := by
    unfold Lane.runs at hr
    split at hr
    · next d runs hstage => exact absurd hstage (hrunning d runs)
    · cases hr

theorem of_running {d : Delivery} {runs : List (JobRun τ)} (hstage : l.stage = .running d runs)
    (hruns : ∀ r ∈ runs, r.AsksOfRun e) : l.ReadsRows e where
  reading d' task hstage' := by cases hstage.symm.trans hstage'
  running := by simpa [Lane.runs, hstage] using hruns

theorem of_reading {d : Delivery} {task : Task Engine (World τ) (Option Update)}
    (hstage : l.stage = .reading d task)
    (htask : task.Asks (World.handler e) Engine.ReadsRows) : l.ReadsRows e where
  reading d' task' hstage' := by
    cases hstage.symm.trans hstage'
    exact htask
  running := by simp [Lane.runs, hstage]

theorem enqueue (hl : l.ReadsRows e) (d : Delivery) : (l.enqueue d).ReadsRows e :=
  ⟨hl.reading, hl.running⟩

theorem leave (r : Outcome Unit) : (l.leave r).ReadsRows e :=
  of_stage (by simp [Lane.leave]) (by simp [Lane.leave])

theorem take (hl : l.ReadsRows e) : l.take.ReadsRows e := by
  unfold Lane.take
  split
  · split
    · exact hl
    · exact of_reading rfl (read_readsRows _ _ _)
  · exact hl

theorem next (hl : l.ReadsRows e) : l.next.ReadsRows e := by
  unfold Lane.next
  split
  · split
    · exact of_stage (by simp) (by simp)
    · exact hl
  · exact hl

theorem modifyRun (hl : l.ReadsRows e) (j : Nat) {r : JobRun τ} (hr : r.AsksOfRun e) :
    (l.modifyRun j fun _ => r).ReadsRows e := by
  unfold Lane.modifyRun
  split
  · next d runs hstage =>
    refine of_running rfl ?_
    intro r' hr'
    obtain ⟨k, hk⟩ := List.getElem?_of_mem hr'
    rw [List.getElem?_modify] at hk
    obtain ⟨r₀, hr₀, hsame⟩ := Option.map_eq_some_iff.mp hk
    split at hsame
    · exact hsame ▸ hr
    · have hmem : r₀ ∈ l.runs := by simpa [Lane.runs, hstage] using List.mem_of_getElem? hr₀
      exact hsame ▸ hl.running r₀ hmem
  · exact hl

theorem turn (hl : l.ReadsRows s.surroundings) :
    (l.turn s).1.ReadsRows s.surroundings ∧ s.Agrees (l.turn s).2 := by
  unfold Lane.turn
  split
  · next d task hstage =>
    have hasks := hl.reading d task hstage
    split
    · split
      · refine ⟨of_running rfl ?_, .refl s⟩
        intro r hr task' htask'
        obtain ⟨job, -, rfl⟩ := List.mem_map.mp hr
        cases htask'
      · exact ⟨of_stage (by simp) (by simp), .refl s⟩
    · have hstep := hasks.step (World.respects_rows s.surroundings) s.world
      exact ⟨of_reading rfl hstep.1, .of_rows hstep.2⟩
  · exact ⟨hl, .refl s⟩

end Lane.ReadsRows

namespace Listening.ReadsRows

variable {s : Session τ} {x : Listening τ}

theorem begin (e : Surroundings τ) (names : List String) (ownWay : String → Bool) :
    (Listening.begin names ownWay : Listening τ).ReadsRows e := by
  intro l hl
  obtain ⟨tracker, -, rfl⟩ := List.mem_map.mp hl
  exact Lane.ReadsRows.of_stage (by simp) (by simp)

theorem modify (hx : x.ReadsRows e) (i : Nat) {f : Lane τ → Lane τ}
    (hf : ∀ l, l.ReadsRows e → (f l).ReadsRows e) : (x.modify i f).ReadsRows e := by
  intro l hl
  obtain ⟨k, hk⟩ := List.getElem?_of_mem hl
  simp only [Listening.modify, List.getElem?_modify] at hk
  obtain ⟨l₀, hl₀, hsame⟩ := Option.map_eq_some_iff.mp hk
  have hread := hx l₀ (List.mem_of_getElem? hl₀)
  split at hsame
  · exact hsame ▸ hf l₀ hread
  · exact hsame ▸ hread

theorem set (hx : x.ReadsRows e) (i : Nat) {l : Lane τ} (hl : l.ReadsRows e) :
    ({ x with lanes := x.lanes.set i l } : Listening τ).ReadsRows e := by
  intro l' hl'
  rcases List.mem_or_eq_of_mem_set hl' with hmem | rfl
  · exact hx l' hmem
  · exact hl

theorem run? (hx : x.ReadsRows e) {i j : Nat} {l : Lane τ} {r : JobRun τ}
    (h : x.run? i j = some (l, r)) : r.AsksOfRun e := by
  simp only [Listening.run?, Option.bind_eq_bind, Option.bind_eq_some_iff] at h
  obtain ⟨_, hl, _, hr, hsame⟩ := h
  cases hsame
  exact (hx l (List.mem_of_getElem? hl)).running r (List.mem_of_getElem? hr)

theorem advance (hx : x.ReadsRows e) (i j round : Nat) (before : JobRun τ) {after : JobRun τ}
    (hafter : after.AsksOfRun e) : (x.advance i j round before after).ReadsRows e := by
  have hmodified : (x.modifyRun i j after).ReadsRows e :=
    hx.modify i fun l hl => hl.modifyRun j hafter
  unfold Listening.advance
  simp only
  split <;> exact hmodified

theorem pass (hx : x.ReadsRows e) (i : Nat) (d : Delivery) : (x.pass i d).ReadsRows e := by
  unfold Listening.pass
  simp only
  split
  · exact hx
  · split
    · exact hx
    · split
      · exact hx
      · split
        · exact hx.modify _ fun l hl => hl.enqueue d
        · exact hx

theorem visit (hx : x.ReadsRows s.surroundings) (i : Nat) :
    (x.visit s i).1.ReadsRows s.surroundings ∧ s.Agrees (x.visit s i).2 := by
  unfold Listening.visit
  split
  · next h _ =>
    have hagrees := Session.Agrees.perform (receive_asks (fun _ => rfl) h) s
    split
    all_goals
      next hr =>
        rw [hr] at hagrees
        exact ⟨hx, hagrees⟩
  · exact ⟨hx.pass i _, .refl s⟩
  · exact ⟨hx, .refl s⟩

/-- Whatever happens to the listeners, they go on reading the subscriptions only, and the session
stays as it is in all that decides who a request is for. -/
theorem step (hx : x.ReadsRows s.surroundings) (event : ListenerEvent) :
    (x.step s event).1.ReadsRows s.surroundings ∧ s.Agrees (x.step s event).2 := by
  cases event with
  | arrive r =>
    refine ⟨?_, .refl s⟩
    simp only [Listening.step]
    split <;> exact hx
  | visit i => exact hx.visit i
  | take i =>
    refine ⟨?_, .refl s⟩
    simp only [Listening.step, Listening.take]
    split
    · next l hl =>
      split
      · exact hx.set i (hx l (List.mem_of_getElem? hl)).take
      · exact hx
    · exact hx
  | read i =>
    simp only [Listening.step, Listening.read]
    split
    · next l hl =>
      obtain ⟨hread, hagrees⟩ := (hx l (List.mem_of_getElem? hl)).turn
      exact ⟨hx.set i hread, hagrees⟩
    · exact ⟨hx, .refl s⟩
  | start i j =>
    refine ⟨?_, .refl s⟩
    simp only [Listening.step, Listening.start]
    split
    · split
      · exact hx.modify i fun l hl => hl.modifyRun j (.start _ _)
      · exact hx
    · exact hx
  | turn i j =>
    simp only [Listening.step, Listening.turn]
    split
    · next l r hr =>
      obtain ⟨hread, hagrees⟩ := (hx.run? hr).turn
      exact ⟨hx.advance i j l.round r hread, hagrees⟩
    · exact ⟨hx, .refl s⟩
  | expire i j =>
    refine ⟨?_, .refl s⟩
    simp only [Listening.step, Listening.expire]
    split
    · next limit l r _ hr => exact hx.advance i j l.round r ((hx.run? hr).expire limit)
    · exact hx
  | next i => exact ⟨hx.modify i fun l hl => hl.next, .refl s⟩
  | leave i r =>
    refine ⟨?_, .refl s⟩
    simp only [Listening.step, Listening.leave]
    split
    · split
      · exact hx.modify i fun l _ => .leave r
      · exact hx
    · exact hx
  | close r =>
    refine ⟨?_, .refl s⟩
    simp only [Listening.step, Listening.close]
    split <;> exact hx
  | revoke => exact ⟨hx, .revoke s true⟩
  | see =>
    refine ⟨?_, .revoke s _⟩
    simp only [Listening.step, Listening.see]
    split <;> exact hx

end Listening.ReadsRows
end TicketSync.Engine
