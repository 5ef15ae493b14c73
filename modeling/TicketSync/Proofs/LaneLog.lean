import TicketSync.Proofs.WebhookReception

/-! # The log of a lane

What came into a lane's inbox was given to its tracker, is on its way to it, or is still in the
inbox, in this order. Each update that the tracker has read opens a round, in which a run begins for
each job of the trigger, once. This is what every turn of a lane and of its runs keeps. -/
namespace TicketSync.Engine

variable {τ : Type}

/-! ### What is known of a lane -/

/-- A run that began, with the lane and the round that it belongs to and its place in the round. -/
structure Beginning where
  lane : Nat
  round : Nat
  run : Nat
  job : Job
  update : Update

/-- What is known of a lane: what came into its inbox, what its tracker was given, what it made of
it, and the runs that began. -/
structure LaneLog where
  enqueued : List Delivery := []
  given : List Delivery := []
  answers : List (Delivery × Outcome (Option Update)) := []
  begun : List Beginning := []

/-- The deliveries that were answered with an update, with these. -/
def readAs (answers : List (Delivery × Outcome (Option Update))) : List (Delivery × Update) :=
  answers.filterMap fun
    | (d, .ok (some u)) => some (d, u)
    | _ => none

theorem readAs_append (xs ys : List (Delivery × Outcome (Option Update))) :
    readAs (xs ++ ys) = readAs xs ++ readAs ys :=
  List.filterMap_append

/-- The update that is handled after an answer is the one that the answer holds. -/
theorem readAs_singleton (d : Delivery) (a : Outcome (Option Update)) :
    readAs [(d, a)] = (Inbox.toHandle a).toList.map (d, ·) := by
  cases a with
  | error f => rfl
  | ok u => cases u <;> rfl

/-- Whether a run waits for a place. -/
def JobRun.isQueued (r : JobRun τ) : Bool :=
  match r.stage with
  | .queued => true
  | _ => false

/-- What a lane does, with the delivery that it is about to give to its tracker, the one that is
being read, and the update of the round that is open. -/
inductive LaneStage.At (config : Config) (e : Surroundings τ) (tracker : String) :
    LaneStage τ → List Delivery → List Delivery → List (Delivery × Update) → Prop
  | waiting : At config e tracker .waiting [] [] []
  | taken (d : Delivery) :
      At config e tracker (.reading d (.ready (read tracker d.subscription d.request))) [d] [] []
  | asked (d : Delivery) (w : World τ) :
      At config e tracker
        (.reading d (.waiting (.handleWebhook tracker d.subscription d.request)
          (World.handler e (.handleWebhook tracker d.subscription d.request) w).1 .ofOutcome))
        [] [d] []
  | answered (d : Delivery) (a : Outcome (Option Update)) :
      At config e tracker (.reading d (.ready (.ofOutcome a))) [] [] (readAs [(d, a)])
  | running (d : Delivery) (u : Update) (runs : List (JobRun τ))
      (jobs : runs.map (fun r => (r.job, r.update)) =
        (config.jobsOf d.subscription.triggerName).map (·, u)) :
      At config e tracker (.running d runs) [] [] [(d, u)]
  | ended (r : Outcome Unit) : At config e tracker (.ended r) [] [] []

/-- A lane holds one delivery at most, and none while it waits. -/
theorem LaneStage.At.holds {config : Config} {e : Surroundings τ} {tracker : String}
    {stage : LaneStage τ} {unasked unanswered : List Delivery}
    {current : List (Delivery × Update)} (h : stage.At config e tracker unasked unanswered current) :
    unasked.length ≤ 1 ∧ unanswered.length ≤ 1 ∧
      (stage = .waiting → unasked = [] ∧ unanswered = [] ∧ current = []) := by
  cases h <;> simp

theorem stage_of_isWaiting {l : Lane τ} (h : l.isWaiting = true) : l.stage = .waiting := by
  unfold Lane.isWaiting at h
  split at h
  · assumption
  · cases h

/-- The runs that began in the rounds of a lane: of those that are over each job of the trigger has
begun once, and of the open one those that do not wait for a place any more. -/
structure Begun (config : Config) (past current : List (Delivery × Update)) (runs : List (JobRun τ))
    (begun : List Beginning) : Prop where
  known : ∀ b ∈ begun, ∃ d, (past ++ current)[b.round]? = some (d, b.update) ∧
    (config.jobsOf d.subscription.triggerName)[b.run]? = some b.job
  once : (begun.map fun b => (b.round, b.run)).Nodup
  all : ∀ n d u, past[n]? = some (d, u) → ∀ j < (config.jobsOf d.subscription.triggerName).length,
    ∃ b ∈ begun, b.round = n ∧ b.run = j
  started : ∀ b ∈ begun, b.round = past.length →
    ∃ r, runs[b.run]? = some r ∧ r.isQueued = false
  listed : ∀ j r, runs[j]? = some r → r.isQueued = false →
    ∃ b ∈ begun, b.round = past.length ∧ b.run = j

namespace Begun

variable {config : Config} {past current : List (Delivery × Update)} {runs : List (JobRun τ)}
  {begun : List Beginning}

/-- A round opens when an update was read. -/
theorem opens (h : Begun config past [] [] begun (τ := τ)) (current : List (Delivery × Update)) :
    Begun config past current ([] : List (JobRun τ)) begun where
  known b hb := by
    obtain ⟨d, hd, hjob⟩ := h.known b hb
    rw [List.append_nil] at hd
    have hlt := (List.getElem?_eq_some_iff.mp hd).1
    exact ⟨d, by rwa [List.getElem?_append_left hlt], hjob⟩
  once := h.once
  all := h.all
  started := h.started
  listed := by simp

/-- Runs wait for places when an open round gets them. -/
theorem queues (h : Begun config past current [] begun (τ := τ)) (hruns : ∀ r ∈ runs, r.isQueued) :
    Begun config past current runs begun where
  known := h.known
  once := h.once
  all := h.all
  started b hb hround := by simpa using h.started b hb hround
  listed j r hr hbegan := by simp [hruns r (List.mem_of_getElem? hr)] at hbegan

/-- A run that waits begins. -/
theorem begins (lane : Nat) {d : Delivery} {u : Update} {j : Nat} {r r' : JobRun τ}
    (h : Begun config past [(d, u)] runs begun) (hr : runs[j]? = some r) (hqueued : r.isQueued = true)
    (hjob : (config.jobsOf d.subscription.triggerName)[j]? = some r.job) (hupdate : r.update = u)
    (hbegan : r'.isQueued = false) :
    Begun config past [(d, u)] (runs.set j r')
      (begun ++ [⟨lane, past.length, j, r.job, r.update⟩]) := by
  have hj : j < runs.length := (List.getElem?_eq_some_iff.mp hr).1
  have hnew : ∀ b ∈ begun, b.round = past.length → b.run ≠ j := by
    rintro b hb hround rfl
    obtain ⟨r₀, hr₀, hstarted⟩ := h.started b hb hround
    cases hr.symm.trans hr₀
    simp [hqueued] at hstarted
  refine ⟨?_, ?_, ?_, ?_, ?_⟩
  · intro b hb
    rcases List.mem_append.mp hb with hb | hb
    · exact h.known b hb
    · obtain rfl := List.mem_singleton.mp hb
      exact ⟨d, by simp [hupdate], hjob⟩
  · rw [List.map_append, List.nodup_append]
    refine ⟨h.once, by simp, ?_⟩
    rintro x hx y hy rfl
    obtain ⟨b, hb, rfl⟩ := List.mem_map.mp hx
    obtain ⟨hround, hrun⟩ := by simpa using hy
    exact hnew b hb hround hrun
  · intro n d' u' hn i hi
    obtain ⟨b, hb, hround, hrun⟩ := h.all n d' u' hn i hi
    exact ⟨b, List.mem_append_left _ hb, hround, hrun⟩
  · intro b hb hround
    rcases List.mem_append.mp hb with hb | hb
    · obtain ⟨r₀, hr₀, hstarted⟩ := h.started b hb hround
      refine ⟨r₀, ?_, hstarted⟩
      rwa [List.getElem?_set_ne (Ne.symm (hnew b hb hround))]
    · obtain rfl := List.mem_singleton.mp hb
      exact ⟨r', List.getElem?_set_self hj, hbegan⟩
  · intro i r₀ hr₀ hstarted
    by_cases hi : i = j
    · subst hi
      exact ⟨_, List.mem_append_right _ (List.mem_singleton.mpr rfl), rfl, rfl⟩
    · rw [List.getElem?_set_ne (Ne.symm hi)] at hr₀
      obtain ⟨b, hb, hround, hrun⟩ := h.listed i r₀ hr₀ hstarted
      exact ⟨b, List.mem_append_left _ hb, hround, hrun⟩

/-- A run goes on. -/
theorem goesOn {j : Nat} {r r' : JobRun τ} (h : Begun config past current runs begun)
    (hr : runs[j]? = some r) (hsame : r'.isQueued = r.isQueued) :
    Begun config past current (runs.set j r') begun := by
  have hj : j < runs.length := (List.getElem?_eq_some_iff.mp hr).1
  refine ⟨h.known, h.once, h.all, ?_, ?_⟩
  · intro b hb hround
    obtain ⟨r₀, hr₀, hstarted⟩ := h.started b hb hround
    by_cases hi : b.run = j
    · rw [hi] at hr₀ ⊢
      cases hr.symm.trans hr₀
      exact ⟨r', List.getElem?_set_self hj, hsame.trans hstarted⟩
    · exact ⟨r₀, by rwa [List.getElem?_set_ne (Ne.symm hi)], hstarted⟩
  · intro i r₀ hr₀ hstarted
    obtain ⟨rfl, rfl⟩ | ⟨-, hr₀⟩ := getElem?_set_cases hr₀
    · exact h.listed i r hr (hsame.symm.trans hstarted)
    · exact h.listed i r₀ hr₀ hstarted

/-- A round is over when all its runs have ended. -/
theorem closes {d : Delivery} {u : Update} (h : Begun config past [(d, u)] runs begun)
    (hlength : runs.length = (config.jobsOf d.subscription.triggerName).length)
    (hended : ∀ r ∈ runs, r.isQueued = false) :
    Begun config (past ++ [(d, u)]) [] ([] : List (JobRun τ)) begun where
  known := by simpa using h.known
  once := h.once
  all n d' u' hn j hj := by
    by_cases hlt : n < past.length
    · rw [List.getElem?_append_left hlt] at hn
      exact h.all n d' u' hn j hj
    · obtain rfl : n = past.length := by
        have := (List.getElem?_eq_some_iff.mp hn).1
        simp at this
        omega
      obtain ⟨rfl, rfl⟩ : d = d' ∧ u = u' := by simpa using hn
      have hr := List.getElem?_eq_getElem (hlength.symm ▸ hj : j < runs.length)
      obtain ⟨b, hb, hround, hrun⟩ := h.listed j _ hr (hended _ (List.getElem_mem _))
      exact ⟨b, hb, hround, hrun⟩
  started b hb hround := by
    obtain ⟨d', hd', -⟩ := h.known b hb
    have hlt := (List.getElem?_eq_some_iff.mp hd').1
    simp at hlt hround
    omega
  listed := by simp

end Begun
/-! ### A lane and its log -/

/-- A lane that listens by default, with all that is known of it. -/
structure Lane.Keeps (config : Config) (e : Surroundings τ) (l : Lane τ) (log : LaneLog)
    (unasked unanswered : List Delivery) (past current : List (Delivery × Update)) : Prop where
  ownWay : l.ownWay = false
  stands : l.stage.At config e l.tracker unasked unanswered current
  conserved : log.enqueued = log.given ++ unasked ++ l.inbox
  answered : log.given = log.answers.map (·.1) ++ unanswered
  updates : readAs log.answers = past ++ current
  round : past.length = l.round
  begun : Begun config past current l.runs log.begun

/-- A lane whose log tells all that it did. -/
def Lane.Logged (config : Config) (e : Surroundings τ) (l : Lane τ) (log : LaneLog) : Prop :=
  ∃ unasked unanswered past current, l.Keeps config e log unasked unanswered past current

/-- What a turn of a lane adds to the answers of its tracker. -/
def Lane.answered? (s : Session τ) (l : Lane τ) : Option (Delivery × Outcome (Option Update)) :=
  match l.stage with
  | .reading d task => (task.exchange? (World.handler s.surroundings) s.world).bind fun
    | ⟨.handleWebhook .., a⟩ => some (d, a)
    | _ => none
  | _ => none

theorem Lane.take_cases (l : Lane τ) : l.take = l ∨ ∃ d inbox, l.stage = .waiting ∧
    l.inbox = d :: inbox ∧ l.take = { l with
      inbox, stage := .reading d (.ready (Engine.read l.tracker d.subscription d.request)) } := by
  unfold Lane.take
  split
  · next d inbox hstage hinbox =>
    split
    · exact .inl rfl
    · exact .inr ⟨d, inbox, hstage, hinbox, rfl⟩
  · exact .inl rfl

theorem Lane.next_cases (l : Lane τ) : l.next = l ∨ ∃ d runs, l.stage = .running d runs ∧
    (∀ r ∈ runs, r.hasEnded = true) ∧ l.next = { l with stage := .waiting, round := l.round + 1 } := by
  unfold Lane.next
  split
  · next d runs hstage =>
    split
    · next hended => exact .inr ⟨d, runs, hstage, List.all_eq_true.mp hended, rfl⟩
    · exact .inl rfl
  · exact .inl rfl

theorem isQueued_of_hasEnded {r : JobRun τ} (h : r.hasEnded = true) : r.isQueued = false := by
  obtain ⟨job, update, stage⟩ := r
  cases stage <;> first | rfl | cases h

theorem read_eq (tracker : String) (x : Subscription) (r : WebhookRequest) :
    Engine.read tracker x r = .ask (.handleWebhook tracker x r) .ofOutcome := rfl

namespace Lane.Logged

variable {config : Config} {e : Surroundings τ} {l : Lane τ} {log : LaneLog}

theorem enqueue (h : l.Logged config e log) (d : Delivery) :
    (l.enqueue d).Logged config e { log with enqueued := log.enqueued ++ [d] } := by
  obtain ⟨unasked, unanswered, past, current, hk⟩ := h
  refine ⟨unasked, unanswered, past, current, hk.ownWay, hk.stands, ?_, hk.answered, hk.updates,
    hk.round, hk.begun⟩
  simp [Lane.enqueue, hk.conserved]

/-- A lane takes the first delivery of its inbox, and is about to give it to its tracker. -/
theorem take (h : l.Logged config e log) : l.take.Logged config e log := by
  rcases l.take_cases with hsame | ⟨d, inbox, hstage, hinbox, htake⟩
  · rwa [hsame]
  · rw [htake]
    obtain ⟨unasked, unanswered, past, current, hk⟩ := h
    have hstands := hk.stands
    have hbegun := hk.begun
    rw [hstage] at hstands
    rw [Lane.runs, hstage] at hbegun
    cases hstands
    refine ⟨[d], [], past, [], hk.ownWay, .taken d, ?_, hk.answered, hk.updates, hk.round, hbegun⟩
    simpa [hinbox] using hk.conserved

/-- A round that is over is one of the past. -/
theorem next (h : l.Logged config e log) : l.next.Logged config e log := by
  rcases l.next_cases with hsame | ⟨d, runs, hstage, hended, hnext⟩
  · rwa [hsame]
  · rw [hnext]
    obtain ⟨unasked, unanswered, past, current, hk⟩ := h
    have hstands := hk.stands
    have hbegun := hk.begun
    rw [hstage] at hstands
    rw [Lane.runs, hstage] at hbegun
    cases hstands with
    | running d u runs jobs =>
      refine ⟨[], [], past ++ [(d, u)], [], hk.ownWay, .waiting, hk.conserved, hk.answered, ?_, ?_, ?_⟩
      · simpa using hk.updates
      · simp [hk.round]
      · refine hbegun.closes ?_ fun r hr => isQueued_of_hasEnded (hended r hr)
        simpa using congrArg List.length jobs

/-- A listener ends while it waits. -/
theorem leave (h : l.Logged config e log) (hwaits : l.isWaiting = true) (r : Outcome Unit) :
    (l.leave r).Logged config e log := by
  obtain ⟨unasked, unanswered, past, current, hk⟩ := h
  have hstage := stage_of_isWaiting hwaits
  have hstands := hk.stands
  have hbegun := hk.begun
  rw [hstage] at hstands
  rw [Lane.runs, hstage] at hbegun
  cases hstands
  exact ⟨[], [], past, [], hk.ownWay, .ended r, hk.conserved, hk.answered, hk.updates, hk.round,
    hbegun⟩

/-- The job and the update of a run are those of its place in its round. -/
theorem job_of_run {d : Delivery} {u : Update} {runs : List (JobRun τ)} {j : Nat} {r : JobRun τ}
    (hjobs : runs.map (fun r => (r.job, r.update)) =
      (config.jobsOf d.subscription.triggerName).map (·, u)) (hr : runs[j]? = some r) :
    (config.jobsOf d.subscription.triggerName)[j]? = some r.job ∧ r.update = u := by
  have hplace := congrArg (·[j]?) hjobs
  simp only [List.getElem?_map, hr, Option.map_some] at hplace
  obtain ⟨job, hjob, hsame⟩ := Option.map_eq_some_iff.mp hplace.symm
  obtain ⟨rfl, rfl⟩ := Prod.mk.inj hsame
  exact ⟨hjob, rfl⟩

/-- A run of the open round goes on, or begins. -/
theorem modifyRun (more : List Beginning) {j : Nat} {r r' : JobRun τ} (h : l.Logged config e log)
    (hr : l.runs[j]? = some r) (hjob : r'.job = r.job) (hupdate : r'.update = r.update)
    (hmore : r'.isQueued = r.isQueued ∧ more = [] ∨ r.isQueued = true ∧ r'.isQueued = false ∧
      ∃ lane, more = [⟨lane, l.round, j, r.job, r.update⟩]) :
    (l.modifyRun j fun _ => r').Logged config e { log with begun := log.begun ++ more } := by
  obtain ⟨unasked, unanswered, past, current, hk⟩ := h
  have hstands := hk.stands
  have hbegun := hk.begun
  cases hstage : l.stage with
  | running d runs =>
    rw [hstage] at hstands
    rw [Lane.runs, hstage] at hbegun hr
    have hplaced : runs[j]? = some r := hr
    simp only [Lane.modifyRun, hstage, modify_of_getElem? hplaced]
    cases hstands with
    | running d u runs jobs =>
      refine ⟨[], [], past, [(d, u)], hk.ownWay, .running d u _ ?_, hk.conserved, hk.answered,
        hk.updates, hk.round, ?_⟩
      · rw [← jobs]
        exact map_set_of_eq hplaced (by rw [hjob, hupdate])
      · rcases hmore with ⟨hsame, rfl⟩ | ⟨hqueued, hbegan, lane, rfl⟩
        · simpa [Lane.runs] using hbegun.goesOn hr hsame
        · obtain ⟨hplace, hu⟩ := job_of_run jobs hr
          have hbegins := hbegun.begins lane hr hqueued hplace hu hbegan
          rwa [hk.round] at hbegins
  | _ => simp [Lane.runs, hstage] at hr

end Lane.Logged

/-! ### A turn of a lane -/

/-- What a lane does after its tracker has made something of a delivery: the jobs of the
subscription's trigger run for an update. -/
def Session.stageAfter (s : Session τ) (d : Delivery) (a : Outcome (Option Update)) : LaneStage τ :=
  match Inbox.toHandle a with
  | some update =>
    .running d ((s.config.jobsOf d.subscription.triggerName).map fun job => { job, update })
  | none => .waiting

theorem Lane.turn_of_answered {l : Lane τ} {d : Delivery} {a : Outcome (Option Update)}
    (hstage : l.stage = .reading d (.ready (.ofOutcome a))) (s : Session τ) :
    l.turn s = ({ l with stage := s.stageAfter d a }, s) := by
  have houtcome : (Task.ready (.ofOutcome a) :
      Task Engine (World τ) (Option Update)).outcome? = some a := by
    cases a <;> rfl
  cases hread : Inbox.toHandle a <;> simp [Lane.turn, hstage, houtcome, hread, Session.stageAfter]

theorem Lane.turn_of_asked {l : Lane τ} {d : Delivery} {s : Session τ}
    {q : Question} {next : q.Answer → Script Engine (Option Update)}
    (hstage : l.stage = .reading d (.ready (.ask q next))) :
    let asked := World.handler s.surroundings q s.world
    (asked.1.delay = some 0 → l.turn s =
      ({ l with stage := .reading d (.ready (next (asked.1.finish asked.2).1)) },
        { s with world := (asked.1.finish asked.2).2 })) ∧
      (asked.1.delay ≠ some 0 → l.turn s =
        ({ l with stage := .reading d (.waiting q asked.1 next) }, { s with world := asked.2 })) := by
  constructor <;> intro hdelay <;> simp [Lane.turn, hstage, Task.outcome?, Task.step, hdelay]

theorem Lane.turn_of_waiting {l : Lane τ} {d : Delivery} {q : Question}
    {p : Pending (World τ) q.Answer} {next : q.Answer → Script Engine (Option Update)}
    (hstage : l.stage = .reading d (.waiting q p next)) (s : Session τ) :
    l.turn s = ({ l with stage := .reading d (.ready (next (p.finish s.world).1)) },
      { s with world := (p.finish s.world).2 }) := by
  simp [Lane.turn, hstage, Task.outcome?, Task.step]

/-- A turn of a lane that its log can tell: it gives deliveries to no tracker but its own. -/
def Lane.TurnLogged (s : Session τ) (l : Lane τ) (log : LaneLog) : Prop :=
  ∃ more, (∀ tracker, (l.turn s).2.world.passed tracker =
      s.world.passed tracker ++ if l.tracker = tracker then more else []) ∧
    (l.turn s).1.tracker = l.tracker ∧
    (l.turn s).1.Logged s.config s.surroundings { log with
      given := log.given ++ more, answers := log.answers ++ (l.answered? s).toList }

section Turn

variable {s : Session τ} {l : Lane τ} {log : LaneLog} {past : List (Delivery × Update)} {d : Delivery}

/-- A turn in which a lane does nothing. -/
theorem Lane.Logged.rests (h : l.Logged s.config s.surroundings log)
    (hturn : l.turn s = (l, s)) (hanswered : l.answered? s = none) : l.TurnLogged s log := by
  refine ⟨[], ?_, ?_, ?_⟩ <;> simp [hturn, hanswered, h]

/-- The tracker's answer opens a round when it is an update. -/
theorem Lane.Keeps.turn_answered {a : Outcome (Option Update)}
    (hk : l.Keeps s.config s.surroundings log [] [] past (readAs [(d, a)]))
    (hstage : l.stage = .reading d (.ready (.ofOutcome a))) : l.TurnLogged s log := by
  have hbegun := hk.begun
  rw [Lane.runs, hstage] at hbegun
  have hnone : l.answered? s = none := by
    cases a <;> simp [Lane.answered?, hstage, Task.exchange?, Script.ofOutcome]
  rw [Lane.TurnLogged, Lane.turn_of_answered hstage, hnone, Option.toList_none, List.append_nil,
    Session.stageAfter]
  cases hread : Inbox.toHandle a with
  | none =>
    have hcurrent : readAs [(d, a)] = [] := by simp [readAs_singleton, hread]
    rw [hcurrent] at hbegun
    refine ⟨[], by simp, rfl, [], [], past, [], hk.ownWay, .waiting, ?_, ?_, ?_, hk.round, hbegun⟩
    · simpa using hk.conserved
    · simpa using hk.answered
    · simpa [hcurrent] using hk.updates
  | some u =>
    have hcurrent : readAs [(d, a)] = [(d, u)] := by simp [readAs_singleton, hread]
    rw [hcurrent] at hbegun
    refine ⟨[], by simp, rfl, [], [], past, [(d, u)], hk.ownWay, .running d u _ ?_, ?_, ?_, ?_,
      hk.round, hbegun.queues ?_⟩
    · simp [Function.comp_def]
    · simpa using hk.conserved
    · simpa using hk.answered
    · simpa [hcurrent] using hk.updates
    · intro r hr
      obtain ⟨job, -, rfl⟩ := List.mem_map.mp hr
      rfl

/-- The delivery that a lane took is given to its tracker, which may answer at once. -/
theorem Lane.Keeps.turn_taken (hk : l.Keeps s.config s.surroundings log [d] [] past [])
    (hstage : l.stage = .reading d (.ready (read l.tracker d.subscription d.request))) :
    l.TurnLogged s log := by
  have hbegun := hk.begun
  rw [Lane.runs, hstage] at hbegun
  obtain ⟨hgiven, hfinish⟩ := World.passed_handleWebhook s.surroundings l.tracker d.subscription
    d.request s.world
  rw [read_eq] at hstage
  generalize hasked : World.handler s.surroundings
    (.handleWebhook l.tracker d.subscription d.request) s.world = asked at hgiven hfinish
  by_cases hnow : asked.1.delay = some 0
  · have hanswer : l.answered? s = some (d, (asked.1.finish asked.2).1) := by
      simp [Lane.answered?, hstage, Task.exchange?, hasked, hnow]
    rw [Lane.TurnLogged, (Lane.turn_of_asked hstage).1 (hasked ▸ hnow), hanswer, hasked]
    refine ⟨[d], fun tracker => (hfinish _ tracker).trans (hgiven tracker), rfl, [], [], past, _,
      hk.ownWay, .answered d _, ?_, ?_, ?_, hk.round, hbegun.opens _⟩
    · simpa using hk.conserved
    · simpa using hk.answered
    · simpa [readAs_append] using hk.updates
  · have hanswer : l.answered? s = none := by
      simp [Lane.answered?, hstage, Task.exchange?, hasked, hnow]
    rw [Lane.TurnLogged, (Lane.turn_of_asked hstage).2 (hasked ▸ hnow), hanswer]
    rw [← hasked] at hgiven
    refine ⟨[d], hgiven, rfl, [], [d], past, [], hk.ownWay, .asked d s.world, ?_, ?_, ?_,
      hk.round, hbegun⟩
    · simpa using hk.conserved
    · simpa using hk.answered
    · simpa using hk.updates

/-- The answer of the tracker comes. -/
theorem Lane.Keeps.turn_asked {w : World τ}
    (hk : l.Keeps s.config s.surroundings log [] [d] past [])
    (hstage : l.stage = .reading d (.waiting (.handleWebhook l.tracker d.subscription d.request)
      (World.handler s.surroundings (.handleWebhook l.tracker d.subscription d.request) w).1
      .ofOutcome)) : l.TurnLogged s log := by
  have hbegun := hk.begun
  rw [Lane.runs, hstage] at hbegun
  obtain ⟨-, hfinish⟩ := World.passed_handleWebhook s.surroundings l.tracker d.subscription
    d.request w
  generalize World.handler s.surroundings
    (.handleWebhook l.tracker d.subscription d.request) w = asked at hstage hfinish
  have hanswer : l.answered? s = some (d, (asked.1.finish s.world).1) := by
    simp [Lane.answered?, hstage, Task.exchange?]
  rw [Lane.TurnLogged, Lane.turn_of_waiting hstage, hanswer]
  refine ⟨[], fun tracker => ?_, rfl, [], [], past, _, hk.ownWay, .answered d _, ?_, ?_, ?_,
    hk.round, hbegun.opens _⟩
  · simpa using hfinish s.world tracker
  · simpa using hk.conserved
  · simpa using hk.answered
  · simpa [readAs_append] using hk.updates

/-- A turn of a lane: it gives its tracker the delivery that it took, has the answer, or opens the
round for what was read. -/
theorem Lane.Logged.turn (h : l.Logged s.config s.surroundings log) : l.TurnLogged s log := by
  obtain ⟨unasked, unanswered, past, current, hk⟩ := h
  have hstands := hk.stands
  generalize hstage : l.stage = stage at hstands
  cases hstands with
  | taken d => exact hk.turn_taken hstage
  | asked d w => exact hk.turn_asked hstage
  | answered d a => exact hk.turn_answered hstage
  | _ =>
    refine rests ⟨_, _, _, _, hk⟩ ?_ ?_ <;> simp [Lane.turn, Lane.answered?, hstage]

end Turn
end TicketSync.Engine
