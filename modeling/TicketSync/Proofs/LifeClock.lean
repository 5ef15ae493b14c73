import TicketSync.Proofs.SessionClock
import TicketSync.Proofs.Teardown

/-! # A session on the clock is a life

A session that registers its triggers, listens and removes its subscriptions on the clock goes
through a life, event by event: the clock only picks the turns. So what holds of every life holds
of it. -/
namespace TicketSync.Engine

variable {τ : Type}

namespace Life

theorem run_append (l : Life τ) (events events' : List LifeEvent) :
    l.run (events ++ events') = (l.run events).run events' := List.foldl_append

theorem run_cons (l : Life τ) (event : LifeEvent) (events : List LifeEvent) :
    l.run (event :: events) = (l.step event).run events := rfl

/-! ### Registrations -/

/-- A session's life while triggers are registered. -/
def registering (s : Session τ) (ownWay : String → Bool) (cancelled : Bool)
    (pool : Pool Engine (World τ) Unit) : Life τ :=
  { session := { s with phase := .registering }, stage := .registering pool, cancelled, ownWay
    entered := [.registering] }

theorem registered_of_goes {s : Session τ} {ownWay : String → Bool} {cancelled : Bool}
    {pool : Pool Engine (World τ) Unit} (hgoes : registrations.rests pool = false) :
    (registering s ownWay cancelled pool).registered pool = registering s ownWay cancelled pool := by
  obtain ⟨hended, hfailure⟩ := Bool.or_eq_false_iff.mp hgoes
  have hnone : pool.failure? = none := by simpa [registrations] using hfailure
  simp [registered, hnone, hended, registering, enter, LifeStage.phase]

/-- Turns of registrations are turns of the life. -/
theorem run_of_comes {s : Session τ} {y : Pool Engine (World τ) Unit × World τ}
    (h : registrations.Comes (World.handler s.surroundings) (s.registrations.map .ready, s.world) y)
    (ownWay : String → Bool) :
    ∃ (turns : List Nat) (cancelled : Bool), (begin s ownWay).run (turns.map .turn) =
      (registering { s with world := y.2 } ownWay cancelled y.1).registered y.1 := by
  induction h with
  | refl =>
    refine ⟨[], s.world.isCancelled, ?_⟩
    simp [run, begin, registering, Session.registrations, List.map_map, Function.comp_def]
  | @turn y i before goes ih =>
    obtain ⟨turns, cancelled, hrun⟩ := ih
    let z := y.1.step (World.handler s.surroundings) y.2 i
    refine ⟨turns ++ [i], cancelled || z.2.isCancelled, ?_⟩
    rw [List.map_append, run_append, hrun, registered_of_goes goes]
    rfl

/-- Registration on the clock is registration in a life, where each tracker answers in time. -/
theorem registers (s : Session τ) (ownWay : String → Bool)
    (hanswers : (World.handler s.surroundings).Answers fun q => Question.subscribes q = true) :
    ∃ turns : List Nat,
      let l := (begin s ownWay).run (turns.map .turn)
      l.session = { s with world := s.register.2.world, phase := l.stage.phase } ∧
        l.stage = match s.register.1 with
          | .ok _ => .listening (.begin s.surroundings.trackers.names ownWay)
          | .error f => .listing (.error f) := by
  rw [Session.register_eq]
  obtain ⟨pool, hcomes, hmirrors⟩ := s.registered_mirrors
  obtain ⟨turns, cancelled, hrun⟩ := run_of_comes hcomes ownWay
  refine ⟨turns, ?_⟩
  simp only [hrun]
  obtain ⟨hlimit, -⟩ | ⟨-, hends⟩ := s.registered_settled hanswers
  · exact absurd rfl hlimit
  cases hfailure : s.registered.failure? with
  | some f =>
    rw [Life.registered, hmirrors.failure?_eq rfl rfl hfailure]
    exact ⟨rfl, rfl⟩
  | none =>
    have hgoes : registrations.stopped s.registered = false := by
      simp [Gathering.stopped, hfailure]
    have hasleep := hends.resolve_left (by simp [hgoes])
    rw [Life.registered, hmirrors.failure?_eq_none rfl hfailure]
    simp only [hmirrors.ended_of_over rfl hasleep hgoes, if_true]
    exact ⟨rfl, rfl⟩

/-! ### Removals -/

/-- Turns of removals are turns of the life. -/
theorem removing_of_comes {r : Outcome Unit} {pool : Pool Engine (World τ) Bool} {l : Life τ}
    {y : Pool Engine (World τ) Bool × World τ}
    (h : removals.Comes (World.handler l.session.surroundings) (pool, l.session.world) y) :
    ∃ (turns : List Nat) (l' : Life τ), l'.session.surroundings = l.session.surroundings ∧
      l'.session.world = y.2 ∧
      (l.unregistered r pool).run (turns.map .turn) = l'.unregistered r y.1 := by
  induction h with
  | refl => exact ⟨[], l, rfl, rfl, rfl⟩
  | @turn y i before goes ih =>
    obtain ⟨turns, l', hsurroundings, hworld, hrun⟩ := ih
    have hended : y.1.ended = false := (Bool.or_eq_false_iff.mp goes).1
    have hremoving : l'.unregistered r y.1 = l'.enter (.removing r y.1) := by
      simp [unregistered, hended]
    rw [← hsurroundings, ← hworld]
    refine ⟨turns ++ [i], (l'.enter (.removing r y.1)).withWorld
      (y.1.step (World.handler l'.session.surroundings) l'.session.world i).2, rfl, rfl, ?_⟩
    rw [List.map_append, run_append, hrun, hremoving]
    rfl

/-- Removals that have begun come to the end that they have on the clock. -/
theorem unregistered_ends {l : Life τ} {r : Outcome Unit} {s : Session τ} {cancels : Bool}
    (hsurroundings : l.session.surroundings = s.surroundings)
    (hworld : l.session.world = s.listing.2.revoke cancels) (xs : List Subscription) :
    ∃ events : List LifeEvent,
      ((l.unregistered r ((xs.map remove).map .ready)).run events).stage =
          .stopped (conclude r) (removed (s.unregistered xs)) ∧
        ((l.unregistered r ((xs.map remove).map .ready)).run events).session.world =
          (s.unregistered xs).state.revoke cancels := by
  obtain ⟨pool, hcomes, hmirrors⟩ := s.unregistered_mirrors xs
  obtain ⟨hrevoked, -⟩ := hcomes.apart (World.handler_apart s.surroundings cancels) fun t ht => by
    simp only [List.map_map, List.mem_map, Function.comp_apply] at ht
    obtain ⟨x, -, rfl⟩ := ht
    exact remove_asks x Question.noConfusion (fun _ _ => Question.noConfusion) Question.noConfusion
  rw [← hsurroundings, ← hworld] at hrevoked
  obtain ⟨turns, l', -, hworld', hrun⟩ := removing_of_comes (r := r) hrevoked
  obtain ⟨-, htimed, hasleep⟩ | ⟨htimed, hends⟩ := s.unregistered_settled xs
  · refine ⟨turns.map .turn ++ [.expire], ?_⟩
    rw [run_append, hrun, Life.unregistered, hmirrors.ended_of_asleep hasleep]
    simp only [removed, htimed, if_true]
    exact ⟨rfl, hworld'⟩
  · refine ⟨turns.map .turn, ?_⟩
    have hgoes : removals.stopped (s.unregistered xs) = false := rfl
    have hasleep := hends.resolve_left (by simp [hgoes])
    have hremoved : removed (s.unregistered xs) = pool.confirmed :=
      removed_of_in_time (s.unregistered_settled xs) hmirrors htimed
    rw [hrun, Life.unregistered, hmirrors.ended_of_over rfl hasleep hgoes]
    simp only [hremoved, if_true]
    exact ⟨rfl, hworld'⟩

/-- Removal on the clock is removal in a life, whether or not the token has been cancelled. -/
theorem removes {l : Life τ} {r : Outcome Unit} (hstage : l.stage = .listing r) {s : Session τ}
    {cancels : Bool} (hsurroundings : l.session.surroundings = s.surroundings)
    (hworld : l.session.world = s.world.revoke cancels) :
    ∃ events : List LifeEvent, (l.run events).stage = .stopped (conclude r) (s.remove "").1 ∧
      (l.run events).session.world = (s.remove "").2.world.revoke cancels := by
  obtain ⟨hcount, hafter⟩ := Session.remove_eq s
  have hlisting := Session.listing_revoke hsurroundings hworld
  let listed : Life τ := { l with
    session := { l.session with world := s.listing.2.revoke cancels } }
  rw [hcount, hafter]
  cases hlisted : s.listing.1 with
  | error f =>
    have hlist : l.step .list = listed.enter (.stopped (conclude r) 0) := by
      simp only [step, list, hstage, Session.perform_listSubscriptions, hlisting, hlisted, listed]
    refine ⟨[.list], ?_⟩
    rw [run_cons, hlist]
    exact ⟨rfl, rfl⟩
  | ok xs =>
    have hlist : l.step .list = listed.unregistered r ((xs.map remove).map .ready) := by
      simp only [step, list, hstage, Session.perform_listSubscriptions, hlisting, hlisted, listed,
        List.map_map, Function.comp_def]
    obtain ⟨events, hends⟩ := unregistered_ends (l := listed) (r := r) hsurroundings rfl xs
    refine ⟨.list :: events, ?_⟩
    rw [run_cons, hlist]
    exact hends

/-! ### Listeners that end -/

/-- An event that leaves some end unseen goes on with the listening. -/
theorem listen_goes {l : Life τ} {x x' : Listening τ} {s' : Session τ} {e : ListenerEvent}
    (hstage : l.stage = .listening x) (hstep : x.step l.session e = (x', s'))
    (hphase : s'.phase = .listening) (hunseen : x'.unseen ≠ []) :
    l.step (.listen e) = { l with session := s', stage := .listening x' } := by
  have hgoes : x'.outcome? = none := by
    cases hunseen' : x'.unseen with
    | nil => exact absurd hunseen' hunseen
    | cons => simp [Listening.outcome?, Listening.isOver, hunseen']
  obtain ⟨session, stage, cancelled, ownWay, entered⟩ := l
  obtain rfl : stage = .listening x := hstage
  obtain ⟨config, surroundings, runLimit, world, clock, phase⟩ := s'
  obtain rfl : phase = .listening := hphase
  simp only [step, listen, hstep, hgoes, enter, LifeStage.phase, if_true]

/-- A listener that leaves as cancelled once nothing can come into its empty inbox. -/
theorem leaves {l : Life τ} {x : Listening τ} (hstage : l.stage = .listening x)
    (hphase : l.session.phase = .listening) (done rest : List (Lane τ))
    (hlanes : x.lanes = done ++ rest) (hdone : done.all Lane.hasEnded = true)
    (hrest : ∀ l ∈ rest, l.isWaiting = true ∧ l.inbox = []) (hshut : x.isShut = true)
    (hunseen : x.unseen ≠ []) :
    ∃ (events : List LifeEvent) (lanes : List (Lane τ)), lanes.all Lane.hasEnded = true ∧
      l.run events = { l with stage := .listening { x with
        lanes, unseen := x.unseen ++ List.replicate rest.length (.error .cancelled) } } := by
  induction rest generalizing l x done with
  | nil =>
    refine ⟨[], done, hdone, ?_⟩
    obtain ⟨session, stage, cancelled, ownWay, entered⟩ := l
    obtain ⟨lanes, visits, endpoint, unseen, verdict, marks⟩ := x
    obtain rfl : stage = _ := hstage
    obtain rfl : lanes = done ++ [] := hlanes
    simp [run]
  | cons lane rest ih =>
    obtain ⟨hwaiting, hinbox⟩ := hrest lane List.mem_cons_self
    let x' : Listening τ := { x with
      lanes := (done ++ [lane.leave (.error .cancelled)]) ++ rest
      unseen := x.unseen ++ [.error .cancelled] }
    have hstep : x.step l.session (.leave done.length (.error .cancelled)) = (x', l.session) := by
      have hlane : x.lanes[done.length]? = some lane := by simp [hlanes]
      have hcan : x.canLeave l.session.world.isCancelled lane (.error .cancelled) = true := by
        simp [Listening.canLeave, Listening.wasCancelled, Failure.isCancelled, hwaiting, hinbox, hshut]
      have hmodify : x.lanes.modify done.length (·.leave (.error .cancelled)) =
          (done ++ [lane.leave (.error .cancelled)]) ++ rest := by
        simp [hlanes, List.modify_eq_take_cons_drop]
      simp only [Listening.step, Listening.leave, hlane, hcan, if_true, Listening.modify, hmodify]
      rfl
    have hgoes := listen_goes hstage hstep hphase (by simp [x'])
    obtain ⟨events, lanes, hended, hrun⟩ := ih (l := { l with stage := .listening x' }) rfl hphase
      (done ++ [lane.leave (.error .cancelled)]) rfl (by simp [hdone, Lane.leave, Lane.hasEnded])
      (fun l hl => hrest l (List.mem_cons_of_mem _ hl)) hshut (by simp [x'])
    refine ⟨.listen (.leave done.length (.error .cancelled)) :: events, lanes, hended, ?_⟩
    rw [run_cons, hgoes, hrun]
    simp [x', List.replicate_succ]

theorem step_see {x : Listening τ} {r : Outcome Unit} {rest : List (Outcome Unit)}
    (hunseen : x.unseen = r :: rest) (s : Session τ) :
    x.step s .see = ({ x with unseen := rest, verdict := x.verdict.see r },
      s.revoke ((x.verdict.see r).cancels && !x.verdict.cancels)) := by
  simp only [Listening.step, Listening.see, hunseen]

theorem see_cancelled (v : Verdict) : v.see (.error .cancelled) = v := by
  obtain ⟨failure⟩ := v
  cases failure <;> rfl

theorem conclude_see (f : Failure) :
    conclude (({} : Verdict).see (.error f)).outcome = conclude (.error f) := by
  have hcancelled : Failure.cancelled.isCancelled = true := rfl
  cases hf : f.isCancelled <;> simp [Verdict.see, Verdict.outcome, conclude, hf, hcancelled]

theorem cancels_see (f : Failure) :
    ((({} : Verdict).see (.error f)).cancels && !({} : Verdict).cancels) = !f.isCancelled := by
  cases hf : f.isCancelled <;> simp [Verdict.see, Verdict.cancels, hf]

/-- The ends of listeners are seen one by one; only the first may be a failure of its own. -/
theorem sees {l : Life τ} {x : Listening τ} (hstage : l.stage = .listening x)
    (hphase : l.session.phase = .listening) (hclosed : x.endpoint.isSome = true)
    (hended : x.lanes.all Lane.hasEnded = true) (r : Outcome Unit) (n : Nat)
    (hunseen : x.unseen = r :: List.replicate n (.error .cancelled)) :
    ∃ events : List LifeEvent,
      (l.run events).stage = .listing (x.verdict.see r).outcome ∧
        (l.run events).session.surroundings = l.session.surroundings ∧
        (l.run events).session.world =
          l.session.world.revoke ((x.verdict.see r).cancels && !x.verdict.cancels) := by
  induction n generalizing l x r with
  | zero =>
    refine ⟨[.listen .see], ?_⟩
    have hover : ({ x with unseen := [], verdict := x.verdict.see r } : Listening τ).outcome? =
        some (x.verdict.see r).outcome := by
      simp [Listening.outcome?, Listening.isOver, hclosed, hended]
    change (l.listen .see).stage = _ ∧ (l.listen .see).session.surroundings = _ ∧
      (l.listen .see).session.world = _
    simp only [listen, hstage, step_see hunseen, List.replicate_zero, hover]
    exact ⟨rfl, rfl, rfl⟩
  | succ n ih =>
    have hgoes := listen_goes hstage (step_see hunseen _) hphase (by simp [List.replicate_succ])
    obtain ⟨events, hlisting, hsurroundings, hworld⟩ := ih
      (l := { l with
        session := l.session.revoke ((x.verdict.see r).cancels && !x.verdict.cancels)
        stage := .listening { x with
          unseen := List.replicate (n + 1) (.error .cancelled), verdict := x.verdict.see r } })
      rfl hphase hclosed hended (.error .cancelled) List.replicate_succ
    refine ⟨.listen .see :: events, ?_⟩
    rw [run_cons, hgoes]
    simp only [see_cancelled, Bool.and_not_self] at hlisting hworld
    refine ⟨hlisting, hsurroundings, hworld.trans ?_⟩
    simp [World.revoke, Session.revoke]

/-- Listeners among which one fails, or is cancelled, come to their end. -/
theorem listens {l : Life τ} {names : List String} {ownWay : String → Bool}
    (hstage : l.stage = .listening (.begin names ownWay)) (hphase : l.session.phase = .listening)
    (f : Failure) :
    ∃ (events : List LifeEvent) (r : Outcome Unit), (l.run events).stage = .listing r ∧
      conclude r = conclude (.error f) ∧
      (l.run events).session.surroundings = l.session.surroundings ∧
      (l.run events).session.world = l.session.world.revoke !f.isCancelled := by
  let x : Listening τ := .begin names ownWay
  let closed : Listening τ := { x with endpoint := some (.error f), unseen := [.error f] }
  have hclose : x.step l.session (.close (.error f)) = (closed, l.session) := rfl
  have hgoes := listen_goes hstage hclose hphase (by simp [closed])
  obtain ⟨events, lanes, hended, hleft⟩ := leaves (l := { l with stage := .listening closed })
    (x := closed) rfl hphase [] x.lanes rfl rfl
    (by
      intro lane hlane
      obtain ⟨tracker, -, rfl⟩ := List.mem_map.mp hlane
      exact ⟨rfl, rfl⟩)
    rfl (by simp [closed])
  obtain ⟨events', hlisting, hsurroundings, hworld⟩ := sees
    (l := { l with stage := .listening { closed with
      lanes, unseen := closed.unseen ++ List.replicate x.lanes.length (.error .cancelled) } })
    rfl hphase rfl hended (.error f) x.lanes.length rfl
  refine ⟨.listen (.close (.error f)) :: (events ++ events'), (closed.verdict.see (.error f)).outcome,
    ?_⟩
  rw [run_cons, hgoes, run_append, hleft]
  refine ⟨hlisting, ?_, hsurroundings, hworld.trans ?_⟩
  · exact conclude_see f
  · exact congrArg (World.revoke · l.session.world) (cancels_see f)

end Life

/-! ### A session that lives on the clock -/

/-- A session that is about to register its triggers. -/
def Session.begun (s : Session τ) : Session τ := { s with phase := .registering }

/-- A session that is about to remove its subscriptions, after its triggers were registered. -/
def Session.ending (s : Session τ) : Session τ :=
  { s.begun.register.2 with phase := .unregistering }

theorem Session.live_eq (s : Session τ) (listened : Outcome Unit) :
    s.live listened =
      (conclude (match s.begun.register.1 with | .ok _ => listened | .error f => .error f),
        { (s.ending.remove "").2 with phase := .stopped }) := rfl

theorem Session.ending_surroundings (s : Session τ) : s.ending.surroundings = s.surroundings := by
  rw [ending, register_eq]
  rfl

/-- A session that lives on the clock goes through a life with the same outcome, count and world, if
each tracker answers in time when it is asked for a subscription. Where a listener has failed, the
life also has the token of the listeners cancelled. -/
theorem Session.live_lives (s : Session τ) (ownWay : String → Bool) (f : Failure)
    (hanswers : (World.handler s.surroundings).Answers fun q => Question.subscribes q = true) :
    ∃ (events : List LifeEvent) (cancels : Bool),
      ((Life.begin s ownWay).run events).outcome? =
          some ((s.live (.error f)).1, (s.ending.remove "").1) ∧
        ((Life.begin s ownWay).run events).session.world =
          (s.live (.error f)).2.world.revoke cancels := by
  obtain ⟨turns, hsession, hstage⟩ := Life.registers s.begun ownWay hanswers
  let l := (Life.begin s ownWay).run (turns.map .turn)
  have hsurroundings : l.session.surroundings = s.ending.surroundings :=
    (congrArg Session.surroundings hsession).trans s.ending_surroundings.symm
  have hworld : l.session.world = s.ending.world := by
    change ((Life.begin s.begun ownWay).run (turns.map .turn)).session.world = _
    rw [hsession]
    rfl
  have hends : ∀ {l : Life τ} {r : Outcome Unit} {cancels : Bool}, l.stage = .listing r →
      l.session.surroundings = s.ending.surroundings →
      l.session.world = s.ending.world.revoke cancels → ∃ events,
        (l.run events).outcome? = some (conclude r, (s.ending.remove "").1) ∧
          (l.run events).session.world = (s.ending.remove "").2.world.revoke cancels := by
    intro l r cancels hlisting hsurroundings hworld
    obtain ⟨events, hstopped, hafter⟩ := Life.removes hlisting hsurroundings hworld
    exact ⟨events, by rw [Life.outcome?, hstopped], hafter⟩
  rw [Session.live_eq]
  cases hregistered : s.begun.register.1 with
  | error f' =>
    rw [hregistered] at hstage
    have hsame : l.session.world = s.ending.world.revoke false :=
      hworld.trans (by simp [World.revoke])
    obtain ⟨events, hover⟩ := hends hstage hsurroundings hsame
    refine ⟨turns.map .turn ++ events, false, ?_⟩
    rw [Life.run_append]
    exact hover
  | ok =>
    rw [hregistered] at hstage
    have hphase : l.session.phase = .listening := by
      change ((Life.begin s.begun ownWay).run (turns.map .turn)).session.phase = _
      rw [hsession, hstage]
      rfl
    obtain ⟨events, r, hlisting, hr, hkept, hrevoked⟩ := Life.listens hstage hphase f
    obtain ⟨events', hover⟩ := hends hlisting (hkept.trans hsurroundings)
      (hrevoked.trans (congrArg _ hworld))
    refine ⟨turns.map .turn ++ (events ++ events'), !f.isCancelled, ?_⟩
    rw [Life.run_append, Life.run_append, ← hr]
    exact hover

/-- A session that lives on the clock has gone through its phases in their order: it has listened
only after all its registrations, and unregistered once, after its listeners. -/
theorem Session.live_inOrder (s : Session τ) (ownWay : String → Bool) (f : Failure)
    (hanswers : (World.handler s.surroundings).Answers fun q => Question.subscribes q = true) :
    ∃ (c : Chronicle τ) (cancels : Bool), c.InOrder s ∧
      c.life.outcome? = some ((s.live (.error f)).1, (s.ending.remove "").1) ∧
      c.world = (s.live (.error f)).2.world.revoke cancels := by
  obtain ⟨events, cancels, houtcome, hworld⟩ := s.live_lives ownWay f hanswers
  have hlife := Chronicle.life_run (.begin s ownWay) events
  refine ⟨(Chronicle.begin s ownWay).run events, cancels,
    Chronicle.inOrder_of_sound (Chronicle.sound_run s ownWay events), ?_, ?_⟩
  · rw [hlife]
    exact houtcome
  · rw [Chronicle.world, hlife]
    exact hworld

end TicketSync.Engine
