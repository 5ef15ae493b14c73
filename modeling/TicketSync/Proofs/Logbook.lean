import TicketSync.Proofs.LaneLog

/-! # The logbook of the listeners

A logbook is a listening with all requests that arrived, what the trackers made of their deliveries
and the runs that began. What holds of it whatever happens, `Logbook.Routed`, is kept here by what
the lanes and their runs do. -/
namespace TicketSync.Engine

variable {τ : Type}

/-- The listeners and their session, with what has happened to them. -/
structure Logbook (τ : Type) where
  listening : Listening τ
  session : Session τ
  requests : List HttpRequest := []
  answers : List (Nat × Delivery × Outcome (Option Update)) := []
  begun : List Beginning := []

namespace Listening

/-- The request that arrives. -/
def arrived? (x : Listening τ) : ListenerEvent → Option HttpRequest
  | .arrive r => if x.endpoint.isNone then some r else none
  | _ => none

/-- What the tracker of a lane has made of a delivery, with the lane. -/
def answered? (s : Session τ) (x : Listening τ) :
    ListenerEvent → Option (Nat × Delivery × Outcome (Option Update))
  | .read k => x.lanes[k]?.bind fun l => (l.answered? s).map (k, ·)
  | _ => none

/-- The run that begins. -/
def begins? (x : Listening τ) : ListenerEvent → Option Beginning
  | .start k j =>
    if (x.start k j).marks = x.marks then none
    else (x.run? k j).map fun lr => ⟨k, lr.1.round, j, lr.2.job, lr.2.update⟩
  | _ => none

end Listening

/-- The deliveries that came into the inbox of a lane, in order. -/
def enqueuedIn (k : Nat) (marks : List Mark) : List Delivery :=
  marks.filterMap fun
    | .enqueued j d => if j = k then some d else none
    | _ => none

/-- The delivery that a request has become when it is answered. -/
def Visit.delivery? : Visit → Option Delivery
  | .answered (.accepted x r) => some ⟨x, r⟩
  | _ => none

/-- How far a request can be that is answered as its id resolves. -/
inductive Visit.For (s : Session τ) (h : HttpRequest) : Visit → Prop
  | arrived : For s h (.arrived h)
  | resolved (x : Subscription) (r : WebhookRequest) (accepted : s.reception h = .accepted x r) :
      For s h (.resolved x r)
  | answered : For s h (.answered (s.reception h))

namespace Logbook

/-- The logbook of the listeners of a session when they begin. All of them listen by default. -/
def begin (s : Session τ) : Logbook τ where
  listening := .begin s.surroundings.trackers.names fun _ => false
  session := s

/-- The logbook after something happened. -/
def step (b : Logbook τ) (event : ListenerEvent) : Logbook τ where
  listening := (b.listening.step b.session event).1
  session := (b.listening.step b.session event).2
  requests := b.requests ++ (b.listening.arrived? event).toList
  answers := b.answers ++ (b.listening.answered? b.session event).toList
  begun := b.begun ++ (b.listening.begins? event).toList

/-- The logbook after events in order. -/
def run (b : Logbook τ) (events : List ListenerEvent) : Logbook τ := events.foldl step b

theorem listening_run (b : Logbook τ) (events : List ListenerEvent) :
    ((b.run events).listening, (b.run events).session) =
      Listening.run (b.listening, b.session) events := by
  induction events generalizing b with
  | nil => rfl
  | cons event events ih => exact ih (b.step event)

/-- What the tracker of a lane has made of its deliveries. -/
def answersOf (b : Logbook τ) (k : Nat) : List (Delivery × Outcome (Option Update)) :=
  b.answers.filterMap fun x => if x.1 = k then some x.2 else none

/-- The runs that began in a lane. -/
def begunIn (b : Logbook τ) (k : Nat) : List Beginning := b.begun.filter fun x => x.lane = k

/-- The log of a lane whose tracker was given these deliveries. -/
def logOf (b : Logbook τ) (k : Nat) (given : List Delivery) : LaneLog where
  enqueued := enqueuedIn k b.listening.marks
  given
  answers := b.answersOf k
  begun := b.begunIn k

/-- The deliveries for a tracker that requests have become. -/
def deliveriesFor (b : Logbook τ) (tracker : String) : List Delivery :=
  (b.listening.visits.filterMap Visit.delivery?).filter fun d => d.subscription.trackerName = tracker

/-- What holds of the listeners of a session whatever has happened to them. -/
structure Routed (s : Session τ) (b : Logbook τ) : Prop where
  agrees : s.Agrees b.session
  reads : b.listening.ReadsRows s.surroundings
  trackers : b.listening.lanes.map (·.tracker) = s.surroundings.trackers.names
  length : b.requests.length = b.listening.visits.length
  visits : ∀ (i : Nat) (h : HttpRequest) (v : Visit), b.requests[i]? = some h →
    b.listening.visits[i]? = some v → v.For s h
  lanes : ∀ (k : Nat) (l : Lane τ), b.listening.lanes[k]? = some l → ∃ given,
    b.session.world.passed l.tracker = s.world.passed l.tracker ++ given ∧
    l.Logged s.config s.surroundings (b.logOf k given)
  accepted : ∀ (k : Nat) (l : Lane τ), b.listening.lanes[k]? = some l → ∃ missed,
    (b.deliveriesFor l.tracker).Perm (enqueuedIn k b.listening.marks ++ missed) ∧
    (l.hasEnded = false → missed = [])

variable {s : Session τ} {b b' : Logbook τ}

/-- No two lanes have one tracker. -/
theorem Routed.eq_of_tracker (h : b.Routed s) (hnames : s.surroundings.trackers.names.Nodup)
    {j k : Nat} {l l' : Lane τ} (hl : b.listening.lanes[j]? = some l)
    (hl' : b.listening.lanes[k]? = some l') (htracker : l.tracker = l'.tracker) : j = k := by
  rw [← h.trackers] at hnames
  have hj : j < (b.listening.lanes.map (·.tracker)).length := by
    simpa using (List.getElem?_eq_some_iff.mp hl).1
  refine (List.getElem?_inj hj hnames).mp ?_
  simp [hl, hl', htracker]

/-- Logbooks with the same requests and the same deliveries. -/
structure SameRequests (b b' : Logbook τ) : Prop where
  requests : b'.requests = b.requests
  visits : b'.listening.visits = b.listening.visits
  marks : ∀ k, enqueuedIn k b'.listening.marks = enqueuedIn k b.listening.marks

theorem SameRequests.deliveriesFor (h : b.SameRequests b') (tracker : String) :
    b'.deliveriesFor tracker = b.deliveriesFor tracker := by
  simp [Logbook.deliveriesFor, h.visits]

/-- What holds of the listeners when nothing happens to a lane or a request. -/
theorem Routed.quiet (h : b.Routed s) (hagrees : s.Agrees b'.session)
    (hlanes : b'.listening.lanes = b.listening.lanes) (hsame : b.SameRequests b')
    (hanswers : b'.answers = b.answers) (hbegun : b'.begun = b.begun)
    (hpassed : b.session.world.SamePassed b'.session.world) : b'.Routed s where
  agrees := hagrees
  reads := by
    intro l hl
    exact h.reads l (hlanes ▸ hl)
  trackers := by rw [hlanes, h.trackers]
  length := by rw [hsame.requests, hsame.visits, h.length]
  visits := by
    rw [hsame.requests, hsame.visits]
    exact h.visits
  lanes k l hl := by
    rw [hlanes] at hl
    obtain ⟨given, hgiven, hlogged⟩ := h.lanes k l hl
    refine ⟨given, (hpassed _).trans hgiven, ?_⟩
    simpa [logOf, answersOf, begunIn, hsame.marks, hanswers, hbegun] using hlogged
  accepted k l hl := by
    rw [hlanes] at hl
    rw [hsame.deliveriesFor, hsame.marks]
    exact h.accepted k l hl

theorem answersOf_append {k : Nat} {answers : List (Delivery × Outcome (Option Update))}
    (hanswers : b'.answers = b.answers ++ answers.map (k, ·)) (j : Nat) :
    b'.answersOf j = b.answersOf j ++ if j = k then answers else [] := by
  have hentries : b'.answersOf j = entriesOf j (b.answers ++ answers.map (k, ·)) := by
    rw [← hanswers]
    rfl
  rw [hentries, entriesOf_append, entriesOf_map]
  rfl

theorem begunIn_append {k : Nat} {begun : List Beginning} (hbegun : b'.begun = b.begun ++ begun)
    (hown : ∀ x ∈ begun, x.lane = k) (j : Nat) :
    b'.begunIn j = b.begunIn j ++ if j = k then begun else [] := by
  have hfilter : begun.filter (fun x => x.lane = j) = if j = k then begun else [] := by
    split
    · next hj => exact List.filter_eq_self.mpr fun x hx => by simp [hown x hx, hj]
    · next hj => exact List.filter_eq_nil_iff.mpr fun x hx => by simpa [hown x hx] using Ne.symm hj
  simp only [begunIn, hbegun, List.filter_append, hfilter]

/-- What one lane does leaves the others, and all requests, alone. -/
theorem Routed.laneStep {k : Nat} {l : Lane τ} {given : List Delivery} (l' : Lane τ) (more : List Delivery)
    (answers : List (Delivery × Outcome (Option Update))) (begun : List Beginning)
    (hnames : s.surroundings.trackers.names.Nodup) (h : b.Routed s)
    (hl : b.listening.lanes[k]? = some l) (hagrees : s.Agrees b'.session)
    (hreads : b'.listening.ReadsRows s.surroundings)
    (hlanes : b'.listening.lanes = b.listening.lanes.set k l') (htracker : l'.tracker = l.tracker)
    (hended : l'.hasEnded = false → l.hasEnded = false) (hsame : b.SameRequests b')
    (hanswers : b'.answers = b.answers ++ answers.map (k, ·))
    (hbegun : b'.begun = b.begun ++ begun) (hown : ∀ x ∈ begun, x.lane = k)
    (hpassed : ∀ tracker, b'.session.world.passed tracker =
      b.session.world.passed tracker ++ if l.tracker = tracker then more else [])
    (hgiven : b.session.world.passed l.tracker = s.world.passed l.tracker ++ given)
    (hlogged : l'.Logged s.config s.surroundings { b.logOf k given with
      given := given ++ more, answers := b.answersOf k ++ answers, begun := b.begunIn k ++ begun }) :
    b'.Routed s := by
  have hcases : ∀ {j l₀}, b'.listening.lanes[j]? = some l₀ →
      j = k ∧ l₀ = l' ∨ j ≠ k ∧ b.listening.lanes[j]? = some l₀ := by
    intro j l₀ hl₀
    rw [hlanes] at hl₀
    exact getElem?_set_cases hl₀
  refine ⟨hagrees, hreads, ?_, ?_, ?_, ?_, ?_⟩
  · rw [hlanes, ← h.trackers]
    exact map_set_of_eq hl htracker
  · rw [hsame.requests, hsame.visits, h.length]
  · rw [hsame.requests, hsame.visits]
    exact h.visits
  · intro j l₀ hl₀
    rcases hcases hl₀ with ⟨rfl, rfl⟩ | ⟨hj, hl₀⟩
    · refine ⟨given ++ more, ?_, ?_⟩
      · rw [htracker, hpassed, hgiven]
        simp
      · simpa [logOf, hsame.marks, answersOf_append hanswers, begunIn_append hbegun hown]
          using hlogged
    · obtain ⟨given₀, hgiven₀, hlog⟩ := h.lanes j l₀ hl₀
      have hother : l.tracker ≠ l₀.tracker := fun heq =>
        hj (h.eq_of_tracker hnames hl hl₀ heq).symm
      refine ⟨given₀, ?_, ?_⟩
      · rw [hpassed, if_neg hother, hgiven₀, List.append_nil]
      · simpa [logOf, hsame.marks, answersOf_append hanswers, begunIn_append hbegun hown, hj]
          using hlog
  · intro j l₀ hl₀
    rw [hsame.deliveriesFor, hsame.marks]
    rcases hcases hl₀ with ⟨rfl, rfl⟩ | ⟨-, hl₀⟩
    · obtain ⟨missed, hperm, hnone⟩ := h.accepted _ l hl
      exact ⟨missed, htracker ▸ hperm, fun hrunning => hnone (hended hrunning)⟩
    · exact h.accepted j l₀ hl₀

/-- A lane moves on without its tracker or a new run. -/
theorem Routed.laneMove {k : Nat} {l : Lane τ} (l' : Lane τ) (hnames : s.surroundings.trackers.names.Nodup)
    (h : b.Routed s) (hl : b.listening.lanes[k]? = some l) (hagrees : s.Agrees b'.session)
    (hreads : b'.listening.ReadsRows s.surroundings)
    (hlanes : b'.listening.lanes = b.listening.lanes.set k l') (htracker : l'.tracker = l.tracker)
    (hended : l'.hasEnded = false → l.hasEnded = false) (hsame : b.SameRequests b')
    (hanswers : b'.answers = b.answers) (hbegun : b'.begun = b.begun)
    (hpassed : b.session.world.SamePassed b'.session.world)
    (hlogged : ∀ log, l.Logged s.config s.surroundings log →
      l'.Logged s.config s.surroundings log) : b'.Routed s := by
  obtain ⟨given, hgiven, hlog⟩ := h.lanes k l hl
  refine h.laneStep l' [] [] [] hnames hl hagrees hreads hlanes htracker hended hsame ?_ ?_ (by simp)
    ?_ hgiven ?_
  · simpa using hanswers
  · simpa using hbegun
  · intro tracker
    simpa using hpassed tracker
  · simpa [logOf] using hlogged _ hlog

/-- What stays as it is in every step: who a request is for, and that listeners only read it. -/
theorem Routed.frame (h : b.Routed s) (event : ListenerEvent) :
    s.Agrees (b.step event).session ∧ (b.step event).listening.ReadsRows s.surroundings := by
  have hreads : b.listening.ReadsRows b.session.surroundings := by
    rw [h.agrees.surroundings]
    exact h.reads
  obtain ⟨hreads', hagrees'⟩ := hreads.step event
  rw [h.agrees.surroundings] at hreads'
  exact ⟨h.agrees.trans hagrees', hreads'⟩

/-- An event that is none of a request's leaves the requests alone. -/
theorem sameRequests_step (b : Logbook τ) {event : ListenerEvent}
    (harrived : b.listening.arrived? event = none)
    (hvisits : (b.step event).listening.visits = b.listening.visits)
    (hmarks : ∀ k, enqueuedIn k (b.step event).listening.marks = enqueuedIn k b.listening.marks) :
    b.SameRequests (b.step event) :=
  ⟨by simp [step, harrived], hvisits, hmarks⟩

theorem Routed.take (hnames : s.surroundings.trackers.names.Nodup) (h : b.Routed s) (k : Nat) :
    (b.step (.take k)).Routed s := by
  obtain ⟨hagrees, hreads⟩ := h.frame (.take k)
  have hanswers : (b.step (.take k)).answers = b.answers := List.append_nil _
  have hbegun : (b.step (.take k)).begun = b.begun := List.append_nil _
  have hsame : b.SameRequests (b.step (.take k)) := by
    refine b.sameRequests_step rfl ?_ fun j => ?_
    · simp only [step, Listening.step, Listening.take]
      split
      · split <;> rfl
      · rfl
    · simp only [step, Listening.step, Listening.take]
      split
      · split <;> simp [Listening.mark, enqueuedIn]
      · rfl
  cases hl : b.listening.lanes[k]? with
  | none =>
    refine h.quiet hagrees ?_ hsame hanswers hbegun fun _ => rfl
    simp [step, Listening.step, Listening.take, hl]
  | some l =>
    have hlanes : (b.step (.take k)).listening.lanes = b.listening.lanes.set k l.take := by
      simp only [step, Listening.step, Listening.take, hl]
      rcases l.take_cases with htake | ⟨d, inbox, hstage, -, htake⟩
      · rw [htake]
        split
        · rfl
        · exact (set_of_getElem? hl).symm
      · simp [htake, Lane.isWaiting, hstage, Listening.mark]
    refine h.laneMove l.take hnames hl hagrees hreads hlanes ?_ ?_ hsame hanswers hbegun (fun _ => rfl)
      fun log hlog => hlog.take
    · rcases l.take_cases with htake | ⟨d, inbox, hstage, -, htake⟩ <;> rw [htake]
    · intro hended
      rcases l.take_cases with htake | ⟨d, inbox, hstage, -, htake⟩
      · rwa [htake] at hended
      · simp [Lane.hasEnded, hstage]

theorem hasEnded_turn (l : Lane τ) (s : Session τ) (h : (l.turn s).1.hasEnded = false) :
    l.hasEnded = false := by
  cases hstage : l.stage with
  | ended r => simp [Lane.turn, hstage, Lane.hasEnded] at h
  | _ => simp [Lane.hasEnded, hstage]

theorem Routed.read (hnames : s.surroundings.trackers.names.Nodup) (h : b.Routed s) (k : Nat) :
    (b.step (.read k)).Routed s := by
  obtain ⟨hagrees, hreads⟩ := h.frame (.read k)
  have hbegun : (b.step (.read k)).begun = b.begun := List.append_nil _
  have hsame : b.SameRequests (b.step (.read k)) := by
    refine b.sameRequests_step rfl ?_ fun j => ?_ <;>
      cases hl : b.listening.lanes[k]? <;> simp [step, Listening.step, Listening.read, hl]
  cases hl : b.listening.lanes[k]? with
  | none =>
    refine h.quiet hagrees ?_ hsame ?_ hbegun ?_ <;>
      simp [step, Listening.step, Listening.read, Listening.answered?, hl, World.SamePassed]
  | some l =>
    obtain ⟨given, hgiven, hlog⟩ := h.lanes k l hl
    rw [← h.agrees.config, ← h.agrees.surroundings] at hlog
    obtain ⟨more, hpassed, htracker, hlog'⟩ := hlog.turn
    rw [h.agrees.config, h.agrees.surroundings] at hlog'
    have hturn : b.listening.read b.session k =
        ({ b.listening with lanes := b.listening.lanes.set k (l.turn b.session).1 },
          (l.turn b.session).2) := by
      simp [Listening.read, hl]
    refine h.laneStep (l.turn b.session).1 more (l.answered? b.session).toList [] hnames hl
      hagrees hreads ?_ htracker (hasEnded_turn l b.session) hsame ?_ ?_ (by simp) ?_ hgiven ?_
    · simp [step, Listening.step, hturn]
    · cases hanswer : l.answered? b.session <;> simp [step, Listening.answered?, hl, hanswer]
    · simpa using hbegun
    · intro tracker
      simpa [step, Listening.step, hturn] using hpassed tracker
    · simpa [logOf] using hlog'

theorem Routed.next (hnames : s.surroundings.trackers.names.Nodup) (h : b.Routed s) (k : Nat) :
    (b.step (.next k)).Routed s := by
  obtain ⟨hagrees, hreads⟩ := h.frame (.next k)
  have hanswers : (b.step (.next k)).answers = b.answers := List.append_nil _
  have hbegun : (b.step (.next k)).begun = b.begun := List.append_nil _
  have hsame : b.SameRequests (b.step (.next k)) := b.sameRequests_step rfl rfl fun _ => rfl
  have hlanes : (b.step (.next k)).listening.lanes = b.listening.lanes.modify k Lane.next := rfl
  cases hl : b.listening.lanes[k]? with
  | none =>
    rw [modify_of_getElem?_none hl] at hlanes
    exact h.quiet hagrees hlanes hsame hanswers hbegun fun _ => rfl
  | some l =>
    rw [modify_of_getElem? hl] at hlanes
    refine h.laneMove l.next hnames hl hagrees hreads hlanes ?_ ?_ hsame hanswers hbegun (fun _ => rfl)
      fun log hlog => hlog.next
    · rcases l.next_cases with hnext | ⟨d, runs, hstage, -, hnext⟩ <;> rw [hnext]
    · intro hended
      rcases l.next_cases with hnext | ⟨d, runs, hstage, -, hnext⟩
      · rwa [hnext] at hended
      · simp [Lane.hasEnded, hstage]

theorem Routed.leave (hnames : s.surroundings.trackers.names.Nodup) (h : b.Routed s) (k : Nat)
    (r : Outcome Unit) : (b.step (.leave k r)).Routed s := by
  obtain ⟨hagrees, hreads⟩ := h.frame (.leave k r)
  have hanswers : (b.step (.leave k r)).answers = b.answers := List.append_nil _
  have hbegun : (b.step (.leave k r)).begun = b.begun := List.append_nil _
  have hlistening : (b.step (.leave k r)).listening =
      b.listening.leave b.session.world.isCancelled k r := rfl
  have hsame : b.SameRequests (b.step (.leave k r)) := by
    refine b.sameRequests_step rfl ?_ fun j => ?_ <;>
    · rw [hlistening, Listening.leave]
      split
      · split <;> rfl
      · rfl
  have hstays : (b.step (.leave k r)).listening.lanes = b.listening.lanes →
      (b.step (.leave k r)).Routed s := fun hlanes =>
    h.quiet hagrees hlanes hsame hanswers hbegun fun _ => rfl
  cases hl : b.listening.lanes[k]? with
  | none => exact hstays (by simp [hlistening, Listening.leave, hl])
  | some l =>
    by_cases hleave : b.listening.canLeave b.session.world.isCancelled l r = true
    · have hwaits : l.isWaiting = true := by
        simp only [Listening.canLeave, Bool.and_eq_true] at hleave
        exact hleave.1
      refine h.laneMove (l.leave r) hnames hl hagrees hreads ?_ rfl ?_ hsame hanswers hbegun
        (fun _ => rfl) fun log hlog => hlog.leave hwaits r
      · simp [hlistening, Listening.leave, hl, hleave, Listening.modify, modify_of_getElem? hl]
      · simp [Lane.leave, Lane.hasEnded]
    · exact hstays (by simp [hlistening, Listening.leave, hl, hleave])

/-! ### Runs -/

theorem run?_eq_some {x : Listening τ} {k j : Nat} {l : Lane τ} {r : JobRun τ}
    (h : x.run? k j = some (l, r)) : x.lanes[k]? = some l ∧ l.runs[j]? = some r := by
  simp only [Listening.run?, Option.bind_eq_bind, Option.bind_eq_some_iff] at h
  obtain ⟨l', hl, r', hr, hsame⟩ := h
  cases hsame
  exact ⟨hl, hr⟩

theorem tracker_modifyRun (l : Lane τ) (j : Nat) (f : JobRun τ → JobRun τ) :
    (l.modifyRun j f).tracker = l.tracker := by
  unfold Lane.modifyRun
  split <;> rfl

theorem hasEnded_of_run {l : Lane τ} {j : Nat} {r : JobRun τ} (h : l.runs[j]? = some r) :
    l.hasEnded = false := by
  cases hstage : l.stage with
  | ended outcome => simp [Lane.runs, hstage] at h
  | _ => simp [Lane.hasEnded, hstage]

/-- A run goes on as another one of the same job and update, and a new run that begins is noted. -/
theorem Routed.runStep {k j : Nat} {l : Lane τ} {r : JobRun τ} (r' : JobRun τ) (begun : List Beginning)
    (hnames : s.surroundings.trackers.names.Nodup) (h : b.Routed s)
    (hrun : b.listening.run? k j = some (l, r)) (hagrees : s.Agrees b'.session)
    (hreads : b'.listening.ReadsRows s.surroundings)
    (hlanes : b'.listening.lanes = (b.listening.modifyRun k j r').lanes) (hsame : b.SameRequests b')
    (hanswers : b'.answers = b.answers) (hbegun : b'.begun = b.begun ++ begun)
    (hpassed : b.session.world.SamePassed b'.session.world) (hjob : r'.job = r.job)
    (hupdate : r'.update = r.update)
    (hqueued : r'.isQueued = r.isQueued ∧ begun = [] ∨ r.isQueued = true ∧ r'.isQueued = false ∧
      begun = [⟨k, l.round, j, r.job, r.update⟩]) : b'.Routed s := by
  obtain ⟨hl, hr⟩ := run?_eq_some hrun
  obtain ⟨given, hgiven, hlog⟩ := h.lanes k l hl
  refine h.laneStep (l.modifyRun j fun _ => r') [] [] begun hnames hl hagrees hreads ?_
    (tracker_modifyRun _ _ _) (fun _ => hasEnded_of_run hr) hsame ?_ hbegun ?_ ?_ hgiven ?_
  · simp [hlanes, Listening.modifyRun, Listening.modify, modify_of_getElem? hl]
  · simpa using hanswers
  · rcases hqueued with ⟨-, rfl⟩ | ⟨-, -, rfl⟩ <;> simp
  · intro tracker
    simpa using hpassed tracker
  · have hmore := hlog.modifyRun begun hr hjob hupdate ?_
    · simpa [logOf] using hmore
    · rcases hqueued with hstays | ⟨hwaits, hbegan, hnew⟩
      · exact .inl hstays
      · exact .inr ⟨hwaits, hbegan, k, hnew⟩

theorem Routed.start (hnames : s.surroundings.trackers.names.Nodup) (h : b.Routed s) (k j : Nat) :
    (b.step (.start k j)).Routed s := by
  obtain ⟨hagrees, hreads⟩ := h.frame (.start k j)
  have hanswers : (b.step (.start k j)).answers = b.answers := List.append_nil _
  have hbegun : (b.step (.start k j)).begun =
      b.begun ++ (b.listening.begins? (.start k j)).toList := rfl
  have hlistening : (b.step (.start k j)).listening = b.listening.start k j := rfl
  by_cases hstart : b.listening.start k j = b.listening
  · have hnone : b.listening.begins? (.start k j) = none := by
      simp [Listening.begins?, hstart]
    refine h.quiet hagrees ?_ (b.sameRequests_step rfl ?_ fun _ => ?_) hanswers ?_ fun _ => rfl
    · rw [hlistening, hstart]
    · rw [hlistening, hstart]
    · rw [hlistening, hstart]
    · simpa [hnone] using hbegun
  · obtain ⟨l, r, hrun, hqueued, hnew⟩ : ∃ l r, b.listening.run? k j = some (l, r) ∧
        r.isQueued = true ∧ b.listening.start k j =
          (b.listening.modifyRun k j r.start).mark (.began k l.round j) := by
      unfold Listening.start at hstart ⊢
      split at hstart
      · next l job update hrun =>
        split at hstart
        · next hroom => exact ⟨l, _, hrun, rfl, if_pos hroom⟩
        · exact absurd rfl hstart
      · exact absurd rfl hstart
    have hbegins : b.listening.begins? (.start k j) =
        some ⟨k, l.round, j, r.job, r.update⟩ := by
      simp [Listening.begins?, hnew, hrun, Listening.mark, Listening.modifyRun, Listening.modify]
    refine h.runStep r.start [⟨k, l.round, j, r.job, r.update⟩] hnames hrun hagrees hreads
      ?_ (b.sameRequests_step rfl ?_ fun _ => ?_) hanswers ?_ (fun _ => rfl) rfl rfl
      (.inr ⟨hqueued, rfl, rfl⟩)
    · rw [hlistening, hnew]
      rfl
    · rw [hlistening, hnew]
      rfl
    · rw [hlistening, hnew]
      simp [Listening.mark, Listening.modifyRun, Listening.modify, enqueuedIn]
    · simpa [hbegins] using hbegun

/-- A run that goes on is noted when it ends, and no request is touched. -/
theorem advance_sameRequests (x : Listening τ) (k j round : Nat) (before after : JobRun τ) :
    (x.advance k j round before after).lanes = (x.modifyRun k j after).lanes ∧
    (x.advance k j round before after).visits = x.visits ∧
    ∀ i, enqueuedIn i (x.advance k j round before after).marks = enqueuedIn i x.marks := by
  unfold Listening.advance
  simp only
  split
  · exact ⟨rfl, rfl, fun i => by
      simp [Listening.mark, Listening.modifyRun, Listening.modify, enqueuedIn]⟩
  · exact ⟨rfl, rfl, fun i => rfl⟩

theorem turn_run {s : Session τ} {r : JobRun τ}
    (hr : r.AsksOfRun s.surroundings) : (r.turn s).1.job = r.job ∧ (r.turn s).1.update = r.update ∧
      (r.turn s).1.isQueued = r.isQueued ∧ s.world.SamePassed (r.turn s).2.world := by
  unfold JobRun.turn
  split
  · next task htask =>
    split
    · exact ⟨rfl, rfl, by simp [JobRun.isQueued, htask], fun _ => rfl⟩
    · have hstep := (hr task htask).step
        ((World.respects_passed s.surroundings).mono fun _ => OfRun.isPass) s.world
      exact ⟨rfl, rfl, by simp [JobRun.isQueued, htask], hstep.2⟩
  · exact ⟨rfl, rfl, rfl, fun _ => rfl⟩

theorem expire_run (limit : Nat) (r : JobRun τ) : (r.expire limit).job = r.job ∧
    (r.expire limit).update = r.update ∧ (r.expire limit).isQueued = r.isQueued := by
  unfold JobRun.expire
  split
  · next task htask => exact ⟨rfl, rfl, by simp [JobRun.isQueued, htask]⟩
  · exact ⟨rfl, rfl, rfl⟩

theorem Routed.turn (hnames : s.surroundings.trackers.names.Nodup) (h : b.Routed s) (k j : Nat) :
    (b.step (.turn k j)).Routed s := by
  obtain ⟨hagrees, hreads⟩ := h.frame (.turn k j)
  have hanswers : (b.step (.turn k j)).answers = b.answers := List.append_nil _
  have hbegun : (b.step (.turn k j)).begun = b.begun := List.append_nil _
  cases hrun : b.listening.run? k j with
  | none =>
    refine h.quiet hagrees ?_ (b.sameRequests_step rfl ?_ fun _ => ?_) hanswers hbegun ?_ <;>
      simp [step, Listening.step, Listening.turn, hrun, World.SamePassed]
  | some lr =>
    obtain ⟨l, r⟩ := lr
    obtain ⟨hlanes, hvisits, hmarks⟩ :=
      advance_sameRequests b.listening k j l.round r (r.turn b.session).1
    have hasks : r.AsksOfRun b.session.surroundings := by
      rw [h.agrees.surroundings]
      exact h.reads.run? hrun
    obtain ⟨hjob, hupdate, hqueued, hpassed⟩ := turn_run hasks
    have hturn : b.listening.turn b.session k j =
        (b.listening.advance k j l.round r (r.turn b.session).1, (r.turn b.session).2) := by
      simp [Listening.turn, hrun]
    refine h.runStep (r.turn b.session).1 [] hnames hrun hagrees hreads ?_
      (b.sameRequests_step rfl ?_ fun i => ?_) hanswers ?_ ?_ hjob hupdate (.inl ⟨hqueued, rfl⟩)
    · simpa [step, Listening.step, hturn] using hlanes
    · simpa [step, Listening.step, hturn] using hvisits
    · simpa [step, Listening.step, hturn] using hmarks i
    · simpa using hbegun
    · simpa [step, Listening.step, hturn] using hpassed

theorem Routed.expire (hnames : s.surroundings.trackers.names.Nodup) (h : b.Routed s) (k j : Nat) :
    (b.step (.expire k j)).Routed s := by
  obtain ⟨hagrees, hreads⟩ := h.frame (.expire k j)
  have hanswers : (b.step (.expire k j)).answers = b.answers := List.append_nil _
  have hbegun : (b.step (.expire k j)).begun = b.begun := List.append_nil _
  have hlistening : (b.step (.expire k j)).listening =
      b.listening.expire b.session.runLimit k j := rfl
  have hquiet : b.listening.expire b.session.runLimit k j = b.listening →
      (b.step (.expire k j)).Routed s := by
    intro hsame
    refine h.quiet hagrees ?_ (b.sameRequests_step rfl ?_ fun _ => ?_) hanswers hbegun
      fun _ => rfl <;> rw [hlistening, hsame]
  cases hlimit : b.session.runLimit with
  | none => exact hquiet (by simp [Listening.expire, hlimit])
  | some limit =>
    cases hrun : b.listening.run? k j with
    | none => exact hquiet (by simp [Listening.expire, hlimit, hrun])
    | some lr =>
      obtain ⟨l, r⟩ := lr
      obtain ⟨hlanes, hvisits, hmarks⟩ :=
        advance_sameRequests b.listening k j l.round r (r.expire limit)
      obtain ⟨hjob, hupdate, hqueued⟩ := expire_run limit r
      have hexpire : b.listening.expire b.session.runLimit k j =
          b.listening.advance k j l.round r (r.expire limit) := by
        simp [Listening.expire, hlimit, hrun]
      rw [hexpire] at hlistening
      refine h.runStep (r.expire limit) [] hnames hrun hagrees hreads ?_
        (b.sameRequests_step rfl ?_ fun i => ?_) hanswers ?_ (fun _ => rfl) hjob hupdate
        (.inl ⟨hqueued, rfl⟩)
      · rw [hlistening, hlanes]
      · rw [hlistening, hvisits]
      · rw [hlistening, hmarks]
      · simpa using hbegun

end Logbook
end TicketSync.Engine
