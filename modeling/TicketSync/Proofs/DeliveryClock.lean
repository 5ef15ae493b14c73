import TicketSync.Proofs.LaneLog

/-! # A request that is handled at once

A session that receives a request and handles it at once does what its listeners do with a request
when they all wait: the request is answered, the lane of its subscription's tracker takes it, the
tracker reads it, and the jobs of the subscription's trigger are the runs that begin. -/
namespace TicketSync.Engine

variable {τ : Type}

/-- The same world with another log. -/
def World.SameButLog (w w' : World τ) : Prop := w' = { w with log := w'.log }

theorem World.SameButLog.refl (w : World τ) : w.SameButLog w := rfl

theorem World.SameButLog.note (w : World τ) (x : Event) : w.SameButLog (w.note x) := rfl

theorem World.SameButLog.trans {w w' w'' : World τ} (h : w.SameButLog w') (h' : w'.SameButLog w'') :
    w.SameButLog w'' := by
  rw [SameButLog, h', h]

/-- What a tracker reads in a delivery, and the world after it. -/
def Session.reading (s : Session τ) (d : Delivery) : Outcome (Option Update) × World τ :=
  (World.handler s.surroundings).atOnce
    (.handleWebhook d.subscription.trackerName d.subscription d.request) s.world

/-- What a tracker reads does not depend on the log. -/
theorem Session.reading_note (s : Session τ) (e : Event) (d : Delivery) :
    ((s.note e).reading d).1 = (s.reading d).1 ∧
      (s.reading d).2.SameButLog ((s.note e).reading d).2 := ⟨rfl, rfl⟩

theorem Session.perform_read (s : Session τ) (x : Subscription) (r : WebhookRequest) :
    s.perform (read x.trackerName x r) =
      ((s.reading ⟨x, r⟩).1, { s with world := (s.reading ⟨x, r⟩).2 }) := by
  have hrun : ∀ (o : Outcome (Option Update)) (w : World τ),
      (Script.ofOutcome o : Script Engine (Option Update)).run (World.handler s.surroundings).atOnce
        w = (o, w) := by
    rintro (f | u) w <;> rfl
  simp only [Session.perform, read_eq, Script.run]
  rw [hrun]
  rfl

/-! ### The lane that reads -/

namespace Listening

theorem run_cons (x : Listening τ × Session τ) (e : ListenerEvent) (events : List ListenerEvent) :
    run x (e :: events) = run (x.1.step x.2 e) events := rfl

theorem run_append (x : Listening τ × Session τ) (events events' : List ListenerEvent) :
    run x (events ++ events') = run (run x events) events' := List.foldl_append

theorem step_read {x : Listening τ} {k : Nat} {l : Lane τ} (hl : x.lanes[k]? = some l)
    (s : Session τ) :
    x.step s (.read k) = ({ x with lanes := x.lanes.set k (l.turn s).1 }, (l.turn s).2) := by
  simp only [step, read, hl]

/-- A lane whose tracker has made something of a delivery goes on. -/
theorem run_answered {x : Listening τ} {k : Nat} {l : Lane τ} {d : Delivery}
    {a : Outcome (Option Update)} (hl : x.lanes[k]? = some l)
    (hstage : l.stage = .reading d (.ready (.ofOutcome a))) (s : Session τ) :
    run (x, s) [.read k] =
      ({ x with lanes := x.lanes.set k { l with stage := s.stageAfter d a } }, s) := by
  rw [run_cons, step_read hl, Lane.turn_of_answered hstage]
  rfl

/-- The turns of a tracker that reads: it is asked, its answer comes, and the lane goes on. -/
theorem reads {s : Session τ} {x : Listening τ} {k : Nat} {l : Lane τ} {d : Delivery}
    (hl : x.lanes[k]? = some l) (hstage : l.stage =
      .reading d (.ready (Engine.read d.subscription.trackerName d.subscription d.request))) :
    ∃ events : List ListenerEvent, run (x, s) events =
      ({ x with lanes := x.lanes.set k { l with stage := s.stageAfter d (s.reading d).1 } },
        { s with world := (s.reading d).2 }) := by
  rw [read_eq] at hstage
  obtain ⟨hnow, hlater⟩ := Lane.turn_of_asked (s := s) hstage
  have hlt : k < x.lanes.length := (List.getElem?_eq_some_iff.mp hl).1
  by_cases hdelay : (World.handler s.surroundings (.handleWebhook d.subscription.trackerName
      d.subscription d.request) s.world).1.delay = some 0
  · refine ⟨[.read k, .read k], ?_⟩
    rw [run_cons, step_read hl, hnow hdelay, run_answered (List.getElem?_set_self hlt) rfl]
    simp only [List.set_set]
    rfl
  · refine ⟨[.read k, .read k, .read k], ?_⟩
    rw [run_cons, step_read hl, hlater hdelay, run_cons, step_read (List.getElem?_set_self hlt),
      Lane.turn_of_waiting rfl, run_answered (List.getElem?_set_self (by simpa using hlt)) rfl]
    simp only [List.set_set]
    rfl

/-! ### A request among listeners that wait -/

/-- Listeners that all wait for a request. -/
structure Idle (names : List String) (x : Listening τ) : Prop where
  trackers : x.lanes.map (·.tracker) = names
  opened : x.endpoint = none
  waits : ∀ l ∈ x.lanes, l.stage = .waiting ∧ l.inbox = [] ∧ l.ownWay = false

/-- A request that arrives is looked up: it is answered, or for a subscription. -/
theorem run_arrived {x : Listening τ} (hopened : x.endpoint = none) (s : Session τ)
    (h : HttpRequest) :
    run (x, s) [.arrive h, .visit x.visits.length] =
      ({ x with visits := x.visits ++ [match s.reception h with
        | .accepted y w => .resolved y w
        | r => .answered r] }, (s.perform (receive h)).2) := by
  have hreceived := (perform_receive s h).1
  have hvisit : (x.visits ++ [Visit.arrived h])[x.visits.length]? = some (.arrived h) := by simp
  simp only [run, List.foldl_cons, List.foldl_nil, step, hopened, Option.isNone_none, if_true, visit,
    hvisit]
  generalize s.perform (receive h) = performed at hreceived
  obtain ⟨r, s'⟩ := performed
  cases hreceived
  cases s.reception h <;> simp [answer]

/-- A delivery for a lane that waits is taken and read. -/
theorem run_resolved {x : Listening τ} {s : Session τ} {k n : Nat} {l : Lane τ} {d : Delivery}
    (hl : x.lanes[k]? = some l) (hwaits : l.stage = .waiting ∧ l.inbox = [] ∧ l.ownWay = false)
    (htracker : l.tracker = d.subscription.trackerName)
    (hfind : x.lanes.findIdx? (fun l => l.tracker = d.subscription.trackerName) = some k)
    (hvisit : x.visits[n]? = some (.resolved d.subscription d.request)) :
    ∃ (events : List ListenerEvent) (marks : List Mark), run (x, s) events =
      ({ x with
          lanes := x.lanes.set k { l with stage := s.stageAfter d (s.reading d).1 }
          visits := x.visits.set n (.answered (.accepted d.subscription d.request))
          marks }, { s with world := (s.reading d).2 }) := by
  obtain ⟨tracker, ownWay, inbox, stage, round⟩ := l
  obtain ⟨rfl, rfl, rfl⟩ := hwaits
  obtain rfl : tracker = d.subscription.trackerName := htracker
  have hlt : k < x.lanes.length := (List.getElem?_eq_some_iff.mp hl).1
  let begun : Lane τ :=
    { tracker := d.subscription.trackerName, round
      stage := .reading d
        (.ready (Engine.read d.subscription.trackerName d.subscription d.request)) }
  let passed : Listening τ := { x with
    lanes := x.lanes.set k { tracker := d.subscription.trackerName, inbox := [d], round }
    visits := x.visits.set n (.answered (.accepted d.subscription d.request))
    marks := x.marks ++ [.enqueued k d] }
  let taken : Listening τ := { passed with
    lanes := x.lanes.set k begun, marks := passed.marks ++ [.taken k d] }
  have hpass : x.step s (.visit n) = (passed, s) := by
    simp only [step, visit, hvisit, pass, hfind, hl]
    simp [Lane.hasEnded, Lane.hasRoom, Lane.capacity, modify, modify_of_getElem? hl, Lane.enqueue,
      answer, mark, passed]
  have htake : passed.step s (.take k) = (taken, s) := by
    have hlane : passed.lanes[k]? = some { tracker := d.subscription.trackerName, inbox := [d], round } :=
      List.getElem?_set_self hlt
    simp [step, take, hlane, Lane.take, Lane.isWaiting, mark, taken, begun, passed]
  obtain ⟨events, hreads⟩ := reads (s := s) (x := taken) (l := begun)
    (List.getElem?_set_self hlt) rfl
  refine ⟨.visit n :: .take k :: events, taken.marks, ?_⟩
  rw [run_cons, hpass, run_cons, htake, hreads]
  simp [taken, passed, begun]

/-- A request for a subscription whose tracker has no lane is answered, and nothing else happens. -/
theorem step_unheard {x : Listening τ} {n : Nat} {d : Delivery}
    (hfind : x.lanes.findIdx? (fun l => l.tracker = d.subscription.trackerName) = none)
    (hvisit : x.visits[n]? = some (.resolved d.subscription d.request)) (s : Session τ) :
    x.step s (.visit n) = ({ x with
      visits := x.visits.set n (.answered (.accepted d.subscription d.request)) }, s) := by
  simp only [step, visit, hvisit, pass, hfind]
  rfl

end Listening

/-! ### What comes of a request -/

/-- What a session does with a request at once, when its listeners do this: their lanes wait again,
or one of them is about to run the jobs that the session runs. -/
inductive Session.Handles (s : Session τ) (x x' : Listening τ) (w : World τ) : Session τ → Prop
  | rests (world : World τ) (same : w.SameButLog world) (lanes : x'.lanes = x.lanes) :
      Handles s x x' w { s with world }
  | runs (world : World τ) (same : w.SameButLog world) (k : Nat) (l : Lane τ) (d : Delivery)
      (u : Update) (lane : x.lanes[k]? = some l) (tracker : l.tracker = d.subscription.trackerName)
      (lanes : x'.lanes = x.lanes.set k { l with
        stage := .running d ((s.config.jobsOf d.subscription.triggerName).map fun job =>
          { job, update := u }) }) :
      Handles s x x' w (({ s with world } : Session τ).dispatch d.subscription.triggerName u)

theorem Session.receive_eq {s : Session τ} {h : HttpRequest} :
    s.receive h = (s.reception h, match s.reception h with
      | .accepted y w => ((s.perform (Engine.receive h)).2.note (.received y w)).deliver y w
      | _ => (s.perform (Engine.receive h)).2) := by
  have hreceived := (perform_receive s h).1
  unfold Session.receive
  generalize s.perform (Engine.receive h) = performed at hreceived
  obtain ⟨r, s'⟩ := performed
  cases hreceived
  cases s.reception h <;> rfl

/-- A delivery that a session has read at once comes to what its lane comes to. -/
theorem Session.handles_delivery {s : Session τ} {x x' : Listening τ} {k : Nat} {l : Lane τ}
    {d : Delivery} (hl : x.lanes[k]? = some l) (hstage : l.stage = .waiting)
    (htracker : l.tracker = d.subscription.trackerName)
    (hknown : d.subscription.trackerName ∈ s.surroundings.trackers.names)
    (hlanes : x'.lanes = x.lanes.set k { l with stage := s.stageAfter d (s.reading d).1 }) :
    s.Handles x x' (s.reading d).2
      ((s.note (.received d.subscription d.request)).deliver d.subscription d.request) := by
  let noted := s.note (.received d.subscription d.request)
  obtain ⟨hread, hsame⟩ := s.reading_note (.received d.subscription d.request) d
  have hknown' : d.subscription.trackerName ∈ noted.surroundings.trackers.names := hknown
  have hdeliver : noted.deliver d.subscription d.request =
      match (s.reading d).1 with
      | .ok (some u) =>
        ({ s with world := (noted.reading d).2 } : Session τ).dispatch d.subscription.triggerName u
      | .ok none => { s with world := (noted.reading d).2.note .ignored }
      | .error f => { s with world := (noted.reading d).2.note (.rejected f) } := by
    rw [← hread, Session.deliver, Session.perform_read, if_pos hknown']
    rcases (noted.reading d).1 with f | _ | u <;> rfl
  have hkept : ∀ world, (noted.reading d).2.SameButLog world → s.stageAfter d (s.reading d).1 = .waiting →
      s.Handles x x' (s.reading d).2 { s with world } := by
    intro world hworld hwaits
    refine .rests world (hsame.trans hworld) ?_
    rw [hlanes, hwaits, ← hstage]
    exact set_of_getElem? hl
  rw [hdeliver]
  cases hr : (s.reading d).1 with
  | error f =>
    rw [hr] at hkept
    exact hkept _ (World.SameButLog.note _ _) rfl
  | ok u? =>
    rw [hr] at hkept hlanes
    cases u? with
    | none => exact hkept _ (World.SameButLog.note _ _) rfl
    | some u => exact .runs _ hsame k l d u hl htracker hlanes

/-- A session that receives a request and handles it at once does what its listeners do with the
request when all of them wait. -/
theorem Session.receive_listens (s : Session τ) {x : Listening τ}
    (hidle : x.Idle s.surroundings.trackers.names) (h : HttpRequest) :
    ∃ (events : List ListenerEvent) (x' : Listening τ) (w : World τ),
      Listening.run (x, s) events = (x', { s with world := w }) ∧
        x'.visits = x.visits ++ [.answered (s.receive h).1] ∧ s.Handles x x' w (s.receive h).2 := by
  have harrived := Listening.run_arrived hidle.opened s h
  obtain ⟨-, hsession⟩ := perform_receive s h
  rw [Session.receive_eq]
  cases hreception : s.reception h with
  | accepted y w =>
    rw [hreception] at harrived hsession
    rw [hsession.resolve_right nofun] at harrived ⊢
    simp only at harrived ⊢
    have hvisit : (x.visits ++ [Visit.resolved y w])[x.visits.length]? = some (.resolved y w) := by
      simp
    have hanswered : (x.visits ++ [Visit.resolved y w]).set x.visits.length
        (.answered (.accepted y w)) = x.visits ++ [.answered (.accepted y w)] := by simp
    let resolved : Listening τ := { x with visits := x.visits ++ [.resolved y w] }
    have hthen : ∀ {events : List ListenerEvent} {y : Listening τ × Session τ},
        Listening.run (resolved, s) events = y → Listening.run (x, s)
          ([.arrive h, .visit x.visits.length] ++ events) = y := by
      rintro events _ rfl
      rw [Listening.run_append, harrived]
    cases hfind : x.lanes.findIdx? (fun l => l.tracker = y.trackerName) with
    | none =>
      have hunknown : y.trackerName ∉ (s.note (.received y w)).surroundings.trackers.names := by
        intro hknown
        rw [Session.note, ← hidle.trackers] at hknown
        obtain ⟨l, hl, htracker⟩ := List.mem_map.mp hknown
        simpa [htracker] using List.findIdx?_eq_none_iff.mp hfind l hl
      have hunheard : Listening.run (resolved, s) [.visit x.visits.length] = _ :=
        Listening.step_unheard (x := resolved) (d := ⟨y, w⟩) hfind hvisit s
      refine ⟨_, _, _, hthen hunheard, hanswered, ?_⟩
      rw [Session.deliver, if_neg hunknown]
      exact .rests _ (.note _ _) rfl
    | some k =>
      obtain ⟨hlt, htracker, -⟩ := List.findIdx?_eq_some_iff_getElem.mp hfind
      have hl := List.getElem?_eq_getElem hlt
      generalize x.lanes[k] = l at hl htracker
      rw [decide_eq_true_iff] at htracker
      have hmem := List.mem_of_getElem? hl
      obtain ⟨events, marks, hread⟩ := Listening.run_resolved (x := resolved) (s := s) (d := ⟨y, w⟩)
        hl (hidle.waits l hmem) htracker hfind hvisit
      refine ⟨_, _, _, hthen hread, hanswered, ?_⟩
      refine Session.handles_delivery (d := ⟨y, w⟩) hl (hidle.waits l hmem).1 htracker ?_ rfl
      rw [← hidle.trackers]
      exact List.mem_map.mpr ⟨l, hmem, htracker⟩
  | _ =>
    rw [hreception] at harrived
    exact ⟨_, _, _, harrived, rfl, .rests _ (.refl _) rfl⟩

end TicketSync.Engine
