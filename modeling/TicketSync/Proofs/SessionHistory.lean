import TicketSync.Engine.Life
import TicketSync.Proofs.ListenerFrame

/-! # The history of a session

A chronicle is a session in its life together with all that its registrations, the listing of what
is stored and its removals have asked and have been told, and with the listeners as they were last.
Whatever happens, and in whatever order, each of them is on its way through its own script, and the
phases have been entered in their order. -/
namespace TicketSync.Engine

/-- Who asks in the life of a session. -/
inductive Asker where
  | registration (i : Nat)
  | listing
  | removal (i : Nat)
  deriving DecidableEq

variable {τ : Type}

/-- The answer to the listing of a tracker's subscriptions, or of all for the empty name, and the
world after it. -/
def Session.listingOf (s : Session τ) (tracker : String) : Outcome (List Subscription) × World τ :=
  (World.handler s.surroundings).atOnce (.listSubscriptions (trackerFilter tracker)) s.world

/-- The answer to the listing of all subscriptions, and the world after it. -/
def Session.listing (s : Session τ) : Outcome (List Subscription) × World τ :=
  (World.handler s.surroundings).atOnce (.listSubscriptions none) s.world

theorem Session.perform_listingOf (s : Session τ) (tracker : String) :
    s.perform (listSubscriptions tracker) =
      ((s.listingOf tracker).1, { s with world := (s.listingOf tracker).2 }) := by
  have hrun : ∀ (r : Outcome (List Subscription)) (w : World τ),
      (Script.ofOutcome r : Script Engine (List Subscription)).run (World.handler s.surroundings).atOnce
        w = (r, w) := by
    rintro (f | xs) w <;> rfl
  simp only [Session.perform, listSubscriptions, inquire, Script.bind_eq, Script.ask_bind,
    Script.done_bind, Script.run]
  rw [hrun]
  rfl

theorem Session.perform_listSubscriptions (s : Session τ) :
    s.perform (listSubscriptions "") = (s.listing.1, { s with world := s.listing.2 }) :=
  s.perform_listingOf ""

namespace Life

/-- The question that is asked when something happens, and who asks it. -/
def asked? (l : Life τ) : LifeEvent → Option (Asker × Question)
  | .turn i =>
    match l.stage with
    | .registering pool => (pool.question? i).map (.registration i, ·)
    | .removing _ pool => (pool.question? i).map (.removal i, ·)
    | _ => none
  | .list =>
    match l.stage with
    | .listing _ => some (.listing, .listSubscriptions none)
    | _ => none
  | _ => none

/-- The exchange that is completed when something happens, and whose it is. -/
def told? (l : Life τ) (event : LifeEvent) : Option (Asker × Exchange Engine) :=
  let h := World.handler l.session.surroundings
  match event, l.stage with
  | .turn i, .registering pool => (pool.exchange? h l.session.world i).map (.registration i, ·)
  | .turn i, .removing _ pool => (pool.exchange? h l.session.world i).map (.removal i, ·)
  | .list, .listing _ => some (.listing, ⟨.listSubscriptions none, l.session.listing.1⟩)
  | _, _ => none

/-- The listeners after something happened to them. -/
def heard? (l : Life τ) (event : LifeEvent) : Option (Listening τ) :=
  match event, l.stage with
  | .listen e, .listening x => some (x.step l.session e).1
  | _, _ => none

/-- Whether an event cuts removals short. -/
def expires (l : Life τ) (event : LifeEvent) : Bool :=
  match event, l.stage with
  | .expire, .removing _ _ => true
  | _, _ => false

end Life

/-- A session in its life with its history: the world in which its subscriptions were listed, and
whether its removals were cut short. -/
structure Chronicle (τ : Type) where
  life : Life τ
  asked : List (Asker × Question) := []
  told : List (Asker × Exchange Engine) := []
  heard : Option (Listening τ) := none
  listedIn : Option (World τ) := none
  expired : Bool := false

namespace Chronicle

/-- The chronicle of a session at its beginning. -/
def begin (s : Session τ) (ownWay : String → Bool) : Chronicle τ := { life := .begin s ownWay }

/-- The chronicle after something happened. -/
def step (c : Chronicle τ) (event : LifeEvent) : Chronicle τ where
  life := c.life.step event
  asked := c.asked ++ (c.life.asked? event).toList
  told := c.told ++ (c.life.told? event).toList
  heard := (c.life.heard? event).or c.heard
  listedIn :=
    if (c.life.told? event).any (·.1 = .listing) then some c.life.session.world else c.listedIn
  expired := c.expired || c.life.expires event

/-- The chronicle after events in order. -/
def run (c : Chronicle τ) (events : List LifeEvent) : Chronicle τ := events.foldl step c

theorem life_run (c : Chronicle τ) (events : List LifeEvent) :
    (c.run events).life = c.life.run events := by
  induction events generalizing c with
  | nil => rfl
  | cons event events ih => exact ih (c.step event)

/-- The questions of one asker, in order. -/
def questionsOf (c : Chronicle τ) (who : Asker) : List Question := entriesOf who c.asked

/-- The exchanges of one asker, in order. -/
def exchangesOf (c : Chronicle τ) (who : Asker) : List (Exchange Engine) := entriesOf who c.told

/-- The world of the session now. -/
def world (c : Chronicle τ) : World τ := c.life.session.world

end Chronicle

/-! ### What happens in one step -/

/-- The scripts that register the triggers of a session. -/
def Session.registrations (s : Session τ) : List (Script Engine Unit) :=
  s.config.triggers.map (Engine.register s.baseUrl)

namespace Life

theorem registered_world (l : Life τ) (pool : Pool Engine (World τ) Unit) :
    (l.registered pool).session.world = l.session.world := by
  unfold registered
  split
  · rfl
  · split <;> rfl

theorem unregistered_world (l : Life τ) (r : Outcome Unit) (pool : Pool Engine (World τ) Bool) :
    (l.unregistered r pool).session.world = l.session.world := by
  unfold unregistered
  split <;> rfl

theorem entered_enter_same (l : Life τ) {stage : LifeStage τ} (h : stage.phase = l.stage.phase) :
    (l.enter stage).entered = l.entered := by
  simp [enter, h]

theorem entered_enter_new (l : Life τ) {stage : LifeStage τ} (h : stage.phase ≠ l.stage.phase) :
    (l.enter stage).entered = l.entered ++ [stage.phase] := by
  simp [enter, h]

/-- What an event does to a life, with the question that is asked and the exchange that is completed.
An event that has no place in the present stage does nothing. -/
inductive Happens (l : Life τ) : LifeEvent → Option (Asker × Question) →
    Option (Asker × Exchange Engine) → Option (Listening τ) → Life τ → Prop
  | registration {i : Nat} {pool : Pool Engine (World τ) Unit} (stage : l.stage = .registering pool)
      (cancelled : Bool) :
      Happens l (.turn i) ((pool.question? i).map (.registration i, ·))
        ((pool.exchange? (World.handler l.session.surroundings) l.session.world i).map
          (.registration i, ·)) none
        ({ l.withWorld (pool.step (World.handler l.session.surroundings) l.session.world i).2 with
            cancelled }.registered
          (pool.step (World.handler l.session.surroundings) l.session.world i).1)
  | listening {e : ListenerEvent} {x : Listening τ} (stage : l.stage = .listening x) :
      Happens l (.listen e) none none (some (x.step l.session e).1) (l.listen e)
  | listed {r : Outcome Unit} {xs : List Subscription} (stage : l.stage = .listing r)
      (answer : l.session.listing.1 = .ok xs) :
      Happens l .list (some (.listing, .listSubscriptions none))
        (some (.listing, ⟨.listSubscriptions none, .ok xs⟩)) none
        ((l.withWorld l.session.listing.2).unregistered r (xs.map fun x => Task.ready (remove x)))
  | unlisted {r : Outcome Unit} {f : Failure} (stage : l.stage = .listing r)
      (answer : l.session.listing.1 = .error f) :
      Happens l .list (some (.listing, .listSubscriptions none))
        (some (.listing, ⟨.listSubscriptions none, .error f⟩)) none
        ((l.withWorld l.session.listing.2).enter (.stopped (conclude r) 0))
  | removal {i : Nat} {r : Outcome Unit} {pool : Pool Engine (World τ) Bool}
      (stage : l.stage = .removing r pool) :
      Happens l (.turn i) ((pool.question? i).map (.removal i, ·))
        ((pool.exchange? (World.handler l.session.surroundings) l.session.world i).map
          (.removal i, ·)) none
        ((l.withWorld (pool.step (World.handler l.session.surroundings) l.session.world i).2).unregistered
          r (pool.step (World.handler l.session.surroundings) l.session.world i).1)
  | expired {r : Outcome Unit} {pool : Pool Engine (World τ) Bool}
      (stage : l.stage = .removing r pool) :
      Happens l .expire none none none (l.enter (.stopped (conclude r) 0))
  | cancelled : Happens l .cancel none none none l.cancel
  | nothing (event : LifeEvent) : Happens l event none none none l

theorem happens (l : Life τ) (event : LifeEvent) :
    l.Happens event (l.asked? event) (l.told? event) (l.heard? event) (l.step event) := by
  obtain ⟨session, stage, isCancelled, ownWay, entered⟩ := l
  cases event with
  | turn i =>
    cases stage with
    | registering pool => exact .registration rfl _
    | removing r pool => exact .removal rfl
    | _ => exact .nothing _
  | listen e =>
    cases stage with
    | listening x => exact .listening rfl
    | _ => exact .nothing _
  | cancel =>
    cases stage <;> exact .cancelled
  | list =>
    cases stage with
    | listing r =>
      simp only [asked?, told?, heard?, Life.step, list, Session.perform_listSubscriptions]
      cases hanswer : session.listing.1 with
      | ok xs => exact .listed rfl hanswer
      | error f => exact .unlisted rfl hanswer
    | _ => exact .nothing _
  | expire =>
    cases stage with
    | removing r pool => exact .expired rfl
    | _ => exact .nothing _

end Life

/-! ### Where a session stands -/

namespace Chronicle

variable (s : Session τ) (c : Chronicle τ)

/-- Registrations that are on their way. -/
abbrev Registering (pool : Pool Engine (World τ) Unit) : Prop :=
  Pool.CameFrom (World.handler s.surroundings) s.registrations
    (fun i => c.questionsOf (.registration i)) (fun i => c.exchangesOf (.registration i)) pool

/-- Removals of subscriptions that are on their way. -/
abbrev Removing (xs : List Subscription) (pool : Pool Engine (World τ) Bool) : Prop :=
  Pool.CameFrom (World.handler s.surroundings) (xs.map remove)
    (fun i => c.questionsOf (.removal i)) (fun i => c.exchangesOf (.removal i)) pool

theorem getElem?_map_remove {xs : List Subscription} {i : Nat} {x : Subscription}
    (hx : xs[i]? = some x) : (xs.map remove)[i]? = some (remove x) := by
  simp [hx]

/-- What the registrations have come to: each is somewhere in its script, and either all have
succeeded, or one of them has failed. -/
structure Registered (registered : Outcome Unit) : Prop where
  came : ∀ (i : Nat) (script : Script Engine Unit), s.registrations[i]? = some script →
    script.Came (c.questionsOf (.registration i)) (c.exchangesOf (.registration i))
  silent : ∀ i : Nat, s.registrations[i]? = none →
    c.questionsOf (.registration i) = [] ∧ c.exchangesOf (.registration i) = []
  succeeded : registered = .ok () → ∀ (i : Nat) (script : Script Engine Unit),
    s.registrations[i]? = some script → script.Leads (c.exchangesOf (.registration i)) (.done ())
  failed : ∀ f, registered = .error f → ∃ (i : Nat) (script : Script Engine Unit),
    s.registrations[i]? = some script ∧ script.Leads (c.exchangesOf (.registration i)) (.fail f)

/-- What a session comes to before its teardown: its listeners are over, or they never began. -/
def CameTo (registered r : Outcome Unit) : Prop :=
  match registered with
  | .ok _ => ∃ x, c.heard = some x ∧ x.isOver = true ∧ r = x.verdict.outcome
  | .error f => c.heard = none ∧ r = .error f

/-- Nothing of the teardown has begun. -/
structure Untouched : Prop where
  listing : c.questionsOf .listing = [] ∧ c.exchangesOf .listing = []
  removal : ∀ i, c.questionsOf (.removal i) = [] ∧ c.exchangesOf (.removal i) = []

/-- The subscriptions were listed, once, with this answer. -/
def Listed (a : Outcome (List Subscription)) : Prop :=
  c.questionsOf .listing = [.listSubscriptions none] ∧
    c.exchangesOf .listing = [⟨.listSubscriptions none, a⟩]

/-- The teardown of a session that has stopped: the listing failed, or each subscription that was
listed has its removal, and unless the time was over these have ended. -/
inductive TornDown : Prop
  | unlisted (f : Failure) (listed : c.Listed (.error f))
      (silent : ∀ i, c.questionsOf (.removal i) = [] ∧ c.exchangesOf (.removal i) = [])
  | listed (xs : List Subscription) (listed : c.Listed (.ok xs))
      (came : ∀ i x, xs[i]? = some x →
        (remove x).Came (c.questionsOf (.removal i)) (c.exchangesOf (.removal i)))
      (silent : ∀ i, xs[i]? = none → c.questionsOf (.removal i) = [] ∧ c.exchangesOf (.removal i) = [])
      (ended : c.expired = false → ∀ i x, xs[i]? = some x → ∃ r : Outcome Bool,
        (remove x).Leads (c.exchangesOf (.removal i)) (.ofOutcome r) ∧
          c.questionsOf (.removal i) = (c.exchangesOf (.removal i)).map (·.question))

/-- Where a session stands in a stage. -/
def Stands : LifeStage τ → Prop
  | .registering pool =>
    c.life.entered = [.registering] ∧ c.Registering s pool ∧ c.heard = none ∧ c.Untouched
  | .listening x =>
    c.life.entered = [.registering, .listening] ∧ c.Registered s (.ok ()) ∧
      x.ReadsRows s.surroundings ∧ c.Untouched
  | .listing r =>
    ∃ registered, c.life.entered = (phases registered).dropLast ∧ c.Registered s registered ∧
      c.CameTo registered r ∧ c.Untouched
  | .removing r pool =>
    ∃ registered xs, c.life.entered = (phases registered).dropLast ∧ c.Registered s registered ∧
      c.CameTo registered r ∧ c.Listed (.ok xs) ∧ c.Removing s xs pool
  | .stopped r _ =>
    ∃ registered listened, c.life.entered = phases registered ∧ c.Registered s registered ∧
      c.CameTo registered listened ∧ r = conclude listened ∧ c.TornDown

/-- A chronicle of a session that began as this one. -/
structure Sound : Prop where
  config : c.life.session.config = s.config
  surroundings : c.life.session.surroundings = s.surroundings
  stands : c.Stands s c.life.stage

variable {s c}

theorem Registered.of_pool {pool : Pool Engine (World τ) Unit} (hpool : c.Registering s pool)
    {registered : Outcome Unit}
    (hsucceeded : registered = .ok () → pool.failure? = none ∧ pool.ended = true)
    (hfailed : ∀ f, registered = .error f → pool.failure? = some f) :
    c.Registered s registered where
  came i script hscript := hpool.came hscript
  silent i hi := hpool.silent i hi
  succeeded hok i script hscript := by
    obtain ⟨hnone, hended⟩ := hsucceeded hok
    obtain ⟨r, hleads, -, t, ht, hr⟩ := hpool.leads_of_ended hended hscript
    obtain ⟨⟨⟩, rfl⟩ := Pool.outcome_of_failure?_eq_none hnone (List.mem_of_getElem? ht) hr
    exact hleads
  failed f hf := hpool.leads_of_failure (hfailed f hf)

/-- The last phase is entered once. -/
theorem phases_eq (registered : Outcome Unit) :
    (phases registered).dropLast ++ [.stopped] = phases registered := by
  cases registered <;> rfl

/-- Registrations that went on: they go on, or the first failure has ended them, or all have
succeeded and the listeners begin. -/
theorem sound_registered {l : Life τ} {pool pool' : Pool Engine (World τ) Unit}
    (hlife : c.life = l.registered pool) (hconfig : l.session.config = s.config)
    (hsurroundings : l.session.surroundings = s.surroundings)
    (hstage : l.stage = .registering pool') (hentered : l.entered = [.registering])
    (hpool : c.Registering s pool) (hheard : c.heard = none)
    (huntouched : c.Untouched) : c.Sound s := by
  have hphase : l.stage.phase = .registering := by rw [hstage]; rfl
  cases hfailure : pool.failure? with
  | some f =>
    have henter : c.life = l.enter (.listing (.error f)) := by
      simp [hlife, Life.registered, hfailure]
    refine ⟨by rwa [henter], by rwa [henter], ?_⟩
    rw [henter]
    refine ⟨.error f, ?_, .of_pool hpool (by simp) (by simp [hfailure]), ⟨hheard, rfl⟩, huntouched⟩
    rw [henter, l.entered_enter_new (by rw [hphase]; nofun), hentered]
    rfl
  | none =>
    cases hended : pool.ended with
    | true =>
      have henter : c.life =
          l.enter (.listening (.begin l.session.surroundings.trackers.names l.ownWay)) := by
        simp [hlife, Life.registered, hfailure, hended]
      refine ⟨by rwa [henter], by rwa [henter], ?_⟩
      rw [henter]
      refine ⟨?_, .of_pool hpool (by simp [hfailure, hended]) (by simp), .begin _ _ _, huntouched⟩
      rw [henter, l.entered_enter_new (by rw [hphase]; nofun), hentered]
      rfl
    | false =>
      have henter : c.life = l.enter (.registering pool) := by
        simp [hlife, Life.registered, hfailure, hended]
      refine ⟨by rwa [henter], by rwa [henter], ?_⟩
      rw [henter]
      refine ⟨?_, hpool, hheard, huntouched⟩
      rw [henter, l.entered_enter_same (by rw [hphase]; rfl), hentered]

/-- A session that stops after its teardown. -/
theorem sound_stopped {l : Life τ} {r registered : Outcome Unit} {n : Nat}
    (hlife : c.life = l.enter (.stopped (conclude r) n)) (hconfig : l.session.config = s.config)
    (hsurroundings : l.session.surroundings = s.surroundings)
    (hphase : l.stage.phase = .unregistering)
    (hentered : l.entered = (phases registered).dropLast) (hregistered : c.Registered s registered)
    (hcame : c.CameTo registered r) (htorn : c.TornDown) : c.Sound s := by
  refine ⟨by rwa [hlife], by rwa [hlife], ?_⟩
  rw [hlife]
  refine ⟨registered, r, ?_, hregistered, hcame, rfl, htorn⟩
  rw [hlife, l.entered_enter_new (by rw [hphase]; nofun), hentered]
  exact phases_eq registered

/-- Removals that went on: they go on, or all have ended and the session stops. -/
theorem sound_unregistered (xs : List Subscription) {l : Life τ} {r registered : Outcome Unit}
    {pool : Pool Engine (World τ) Bool}
    (hlife : c.life = l.unregistered r pool) (hconfig : l.session.config = s.config)
    (hsurroundings : l.session.surroundings = s.surroundings)
    (hphase : l.stage.phase = .unregistering)
    (hentered : l.entered = (phases registered).dropLast)
    (hregistered : c.Registered s registered) (hcame : c.CameTo registered r)
    (hlisted : c.Listed (.ok xs)) (hpool : c.Removing s xs pool) : c.Sound s := by
  cases hended : pool.ended with
  | true =>
    have henter : c.life = l.enter (.stopped (conclude r) pool.confirmed) := by
      simp [hlife, Life.unregistered, hended]
    apply sound_stopped henter hconfig hsurroundings hphase hentered hregistered hcame
    refine .listed xs hlisted (fun i x hx => hpool.came (getElem?_map_remove hx)) ?_ ?_
    · exact fun i hi => hpool.silent i (by simpa using hi)
    · intro _ i x hx
      obtain ⟨r, hleads, hasked, -⟩ := hpool.leads_of_ended hended (getElem?_map_remove hx)
      exact ⟨r, hleads, hasked⟩
  | false =>
    have henter : c.life = l.enter (.removing r pool) := by
      simp [hlife, Life.unregistered, hended]
    refine ⟨by rwa [henter], by rwa [henter], ?_⟩
    rw [henter]
    refine ⟨registered, xs, ?_, hregistered, hcame, hlisted, hpool⟩
    rw [henter, l.entered_enter_same (by rw [hphase]; rfl), hentered]

theorem sound_begin (s : Session τ) (ownWay : String → Bool) :
    (Chronicle.begin s ownWay).Sound s := by
  refine sound_registered (s := s)
    (l := { session := { s with phase := .registering },
            stage := .registering (s.registrations.map Task.ready),
            cancelled := s.world.isCancelled, ownWay, entered := [.registering] })
    ?_ rfl rfl rfl rfl (.start _ _ (fun _ => rfl) fun _ => rfl) rfl
    ⟨⟨rfl, rfl⟩, fun _ => ⟨rfl, rfl⟩⟩
  simp [Chronicle.begin, Life.begin, Session.registrations, Function.comp_def]

/-! ### Every step -/

theorem questionsOf_step (c : Chronicle τ) (event : LifeEvent) (who : Asker) :
    (c.step event).questionsOf who =
      c.questionsOf who ++ entriesOf who (c.life.asked? event).toList :=
  entriesOf_append _ _ _

theorem exchangesOf_step (c : Chronicle τ) (event : LifeEvent) (who : Asker) :
    (c.step event).exchangesOf who =
      c.exchangesOf who ++ entriesOf who (c.life.told? event).toList :=
  entriesOf_append _ _ _

/-- A chronicle after another one, with what was asked, told and heard in between. -/
structure Follows (c c' : Chronicle τ) (asked? : Option (Asker × Question))
    (told? : Option (Asker × Exchange Engine)) (heard? : Option (Listening τ)) : Prop where
  questions : ∀ who, c'.questionsOf who = c.questionsOf who ++ entriesOf who asked?.toList
  exchanges : ∀ who, c'.exchangesOf who = c.exchangesOf who ++ entriesOf who told?.toList
  heard : c'.heard = heard?.or c.heard
  listedIn : c'.listedIn = if told?.any (·.1 = .listing) then some c.world else c.listedIn

namespace Follows

variable {c' : Chronicle τ} {asked? : Option (Asker × Question)}
  {told? : Option (Asker × Exchange Engine)} {heard? : Option (Listening τ)}

theorem step (c : Chronicle τ) (event : LifeEvent) :
    c.Follows (c.step event) (c.life.asked? event) (c.life.told? event) (c.life.heard? event) :=
  ⟨c.questionsOf_step event, c.exchangesOf_step event, rfl, rfl⟩

/-- What an asker has asked and has been told when only another one has a turn. -/
theorem same (h : c.Follows c' asked? told? heard?) (who : Asker)
    (hasked : ∀ x, asked? = some x → x.1 ≠ who) (htold : ∀ x, told? = some x → x.1 ≠ who) :
    c'.questionsOf who = c.questionsOf who ∧ c'.exchangesOf who = c.exchangesOf who := by
  rw [h.questions, h.exchanges]
  constructor
  · cases asked? with
    | none => simp [entriesOf]
    | some x => simp [entriesOf, hasked x rfl]
  · cases told? with
    | none => simp [entriesOf]
    | some x => simp [entriesOf, htold x rfl]

theorem listedIn_same (h : c.Follows c' asked? told? heard?)
    (htold : ∀ x, told? = some x → x.1 ≠ .listing) : c'.listedIn = c.listedIn := by
  rw [h.listedIn]
  cases told? with
  | none => rfl
  | some x => simp [htold x rfl]

/-- What an asker of a kind has asked and has been told when one of that kind has a turn. -/
theorem turn {q? : Option Question} {x? : Option (Exchange Engine)} (who : Nat → Asker) {i : Nat}
    (hwho : ∀ j, who j = who i ↔ j = i)
    (h : c.Follows c' (q?.map (who i, ·)) (x?.map (who i, ·)) heard?) (j : Nat) :
    c'.questionsOf (who j) = c.questionsOf (who j) ++ (if j = i then q?.toList else []) ∧
      c'.exchangesOf (who j) = c.exchangesOf (who j) ++ (if j = i then x?.toList else []) := by
  rw [h.questions, h.exchanges, entriesOf_toList, entriesOf_toList]
  simp [hwho j]

theorem untouched (h : c.Follows c' asked? told? heard?) (hc : c.Untouched)
    (hasked : ∀ x, asked? = some x → ∃ i, x.1 = .registration i)
    (htold : ∀ x, told? = some x → ∃ i, x.1 = .registration i) : c'.Untouched := by
  have hsame : ∀ who, (∀ i, who ≠ .registration i) →
      c'.questionsOf who = c.questionsOf who ∧ c'.exchangesOf who = c.exchangesOf who := by
    intro who hwho
    apply h.same
    · intro x hx heq
      obtain ⟨i, hi⟩ := hasked x hx
      exact hwho i (heq.symm.trans hi)
    · intro x hx heq
      obtain ⟨i, hi⟩ := htold x hx
      exact hwho i (heq.symm.trans hi)
  refine ⟨?_, fun i => ?_⟩
  · obtain ⟨hq, hx⟩ := hsame .listing (by simp)
    rw [hq, hx]
    exact hc.listing
  · obtain ⟨hq, hx⟩ := hsame (.removal i) (by simp)
    rw [hq, hx]
    exact hc.removal i

theorem registered (h : c.Follows c' asked? told? heard?) {r : Outcome Unit}
    (hc : c.Registered s r) (hasked : ∀ x, asked? = some x → ∀ i, x.1 ≠ .registration i)
    (htold : ∀ x, told? = some x → ∀ i, x.1 ≠ .registration i) : c'.Registered s r := by
  have hsame : ∀ i, c'.questionsOf (.registration i) = c.questionsOf (.registration i) ∧
      c'.exchangesOf (.registration i) = c.exchangesOf (.registration i) := fun i =>
    h.same _ (fun x hx => hasked x hx i) fun x hx => htold x hx i
  refine ⟨?_, ?_, ?_, ?_⟩
  · intro i script hscript
    rw [(hsame i).1, (hsame i).2]
    exact hc.came i script hscript
  · intro i hi
    rw [(hsame i).1, (hsame i).2]
    exact hc.silent i hi
  · intro hok i script hscript
    rw [(hsame i).2]
    exact hc.succeeded hok i script hscript
  · intro f hf
    obtain ⟨i, script, hscript, hleads⟩ := hc.failed f hf
    refine ⟨i, script, hscript, ?_⟩
    rwa [(hsame i).2]

end Follows

theorem CameTo.heard {c' : Chronicle τ} {registered r : Outcome Unit} (h : c.CameTo registered r)
    (hheard : c'.heard = c.heard) : c'.CameTo registered r := by
  cases registered <;> simpa [CameTo, hheard] using h

theorem TornDown.follows {c' : Chronicle τ} (h : c.TornDown) (hasked : c'.questionsOf = c.questionsOf)
    (htold : c'.exchangesOf = c.exchangesOf) (hexpired : c'.expired = false → c.expired = false) :
    c'.TornDown := by
  cases h with
  | unlisted f listed silent =>
    refine .unlisted f ?_ ?_
    · simpa [Listed, hasked, htold] using listed
    · simpa [hasked, htold] using silent
  | listed xs listed came silent ended =>
    refine .listed xs ?_ ?_ ?_ ?_
    · simpa [Listed, hasked, htold] using listed
    · simpa [hasked, htold] using came
    · simpa [hasked, htold] using silent
    · intro hnot
      simpa [hasked, htold] using ended (hexpired hnot)

/-- A session in which nothing is asked, told or heard stands where it stood. -/
theorem Stands.follows {c' : Chronicle τ} {stage : LifeStage τ} (h : c.Stands s stage)
    (hfollows : c.Follows c' none none none) (hentered : c'.life.entered = c.life.entered)
    (hexpired : c'.expired = false → c.expired = false) : c'.Stands s stage := by
  have hasked : c'.questionsOf = c.questionsOf :=
    funext fun who => (hfollows.same who (by simp) (by simp)).1
  have htold : c'.exchangesOf = c.exchangesOf :=
    funext fun who => (hfollows.same who (by simp) (by simp)).2
  have hheard : c'.heard = c.heard := hfollows.heard
  have huntouched : c.Untouched → c'.Untouched := fun hc =>
    hfollows.untouched hc (by simp) (by simp)
  have hregistered : ∀ r, c.Registered s r → c'.Registered s r := fun r hr =>
    hfollows.registered hr (by simp) (by simp)
  cases stage with
  | registering pool =>
    obtain ⟨hphases, hpool, hnone, hc⟩ := h
    refine ⟨hentered.trans hphases, ?_, hheard.trans hnone, huntouched hc⟩
    rwa [Registering, hasked, htold]
  | listening x =>
    obtain ⟨hphases, hr, hx, hc⟩ := h
    exact ⟨hentered.trans hphases, hregistered _ hr, hx, huntouched hc⟩
  | listing r =>
    obtain ⟨registered, hphases, hr, hcame, hc⟩ := h
    exact ⟨registered, hentered.trans hphases, hregistered _ hr, hcame.heard hheard, huntouched hc⟩
  | removing r pool =>
    obtain ⟨registered, xs, hphases, hr, hcame, hlisted, hpool⟩ := h
    refine ⟨registered, xs, hentered.trans hphases, hregistered _ hr, hcame.heard hheard, ?_, ?_⟩
    · rwa [Listed, hasked, htold]
    · rwa [Removing, hasked, htold]
  | stopped r n =>
    obtain ⟨registered, listened, hphases, hr, hcame, hend, htorn⟩ := h
    exact ⟨registered, listened, hentered.trans hphases, hregistered _ hr, hcame.heard hheard, hend,
      htorn.follows hasked htold hexpired⟩

variable {c' : Chronicle τ}

theorem sound_listen {e : ListenerEvent} {x : Listening τ} (h : c.Sound s)
    (hstage : c.life.stage = .listening x) (hlife : c'.life = c.life.listen e)
    (hfollows : c.Follows c' none none (some (x.step c.life.session e).1)) : c'.Sound s := by
  have hstands := h.stands
  rw [hstage] at hstands
  obtain ⟨hphases, hregistered, hreads, huntouched⟩ := hstands
  obtain ⟨hreads', hagrees⟩ := Listening.ReadsRows.step (s := c.life.session) (by
    rwa [h.surroundings]) e
  have hconfig := hagrees.config.trans h.config
  have hsurroundings := hagrees.surroundings.trans h.surroundings
  have hregistered' := hfollows.registered hregistered (by simp) (by simp)
  have huntouched' := hfollows.untouched huntouched (by simp) (by simp)
  have hphase : c.life.stage.phase = .listening := by
    rw [hstage]
    rfl
  cases hover : (x.step c.life.session e).1.outcome? with
  | none =>
    have henter : c'.life = { c.life with session := (x.step c.life.session e).2 }.enter
        (.listening (x.step c.life.session e).1) := by
      simp [hlife, Life.listen, hstage, hover]
    refine ⟨by rwa [henter], by rwa [henter], ?_⟩
    rw [henter]
    refine ⟨?_, hregistered', ?_, huntouched'⟩
    · rw [henter, Life.entered_enter_same _ (by rw [hphase]; rfl)]
      exact hphases
    · rwa [h.surroundings] at hreads'
  | some r =>
    have henter : c'.life = { c.life with session := (x.step c.life.session e).2 }.enter
        (.listing r) := by
      simp [hlife, Life.listen, hstage, hover]
    have hend : (x.step c.life.session e).1.isOver = true ∧
        (x.step c.life.session e).1.verdict.outcome = r := by
      simpa [Listening.outcome?] using hover
    refine ⟨by rwa [henter], by rwa [henter], ?_⟩
    rw [henter]
    refine ⟨.ok (), ?_, hregistered', ⟨_, hfollows.heard, hend.1, hend.2.symm⟩, huntouched'⟩
    rw [henter, Life.entered_enter_new _ (by rw [hphase]; nofun)]
    exact congrArg (· ++ [_]) hphases

/-- A registration has a turn. -/
theorem sound_registration {i : Nat} {pool : Pool Engine (World τ) Unit} {cancelled : Bool}
    (h : c.Sound s) (hstage : c.life.stage = .registering pool)
    (hlife : c'.life = { c.life.withWorld
        (pool.step (World.handler c.life.session.surroundings) c.life.session.world i).2 with
          cancelled }.registered
      (pool.step (World.handler c.life.session.surroundings) c.life.session.world i).1)
    (hfollows : c.Follows c' ((pool.question? i).map (.registration i, ·))
      ((pool.exchange? (World.handler c.life.session.surroundings) c.life.session.world i).map
        (.registration i, ·)) none) : c'.Sound s := by
  have hstands := h.stands
  rw [hstage] at hstands
  obtain ⟨hphases, hpool, hheard, huntouched⟩ := hstands
  have hturn := hfollows.turn .registration (by simp)
  refine sound_registered hlife h.config h.surroundings hstage hphases ?_
    (hfollows.heard.trans hheard) (hfollows.untouched huntouched (by simp) (by simp))
  rw [h.surroundings] at hturn ⊢
  exact hpool.step c.life.session.world i (fun j => (hturn j).1) fun j => (hturn j).2

/-- The stored subscriptions are listed, and their removals begin. -/
theorem sound_listed {r : Outcome Unit} {xs : List Subscription} (h : c.Sound s)
    (hstage : c.life.stage = .listing r)
    (hlife : c'.life = (c.life.withWorld c.life.session.listing.2).unregistered r
      (xs.map fun x => Task.ready (remove x)))
    (hfollows : c.Follows c' (some (.listing, .listSubscriptions none))
      (some (.listing, ⟨.listSubscriptions none, .ok xs⟩)) none) : c'.Sound s := by
  have hstands := h.stands
  rw [hstage] at hstands
  obtain ⟨registered, hphases, hregistered, hcame, huntouched⟩ := hstands
  have hremoval : ∀ i, c'.questionsOf (.removal i) = [] ∧ c'.exchangesOf (.removal i) = [] := by
    intro i
    obtain ⟨hq, hx⟩ := hfollows.same (.removal i) (by simp) (by simp)
    rw [hq, hx]
    exact huntouched.removal i
  refine sound_unregistered xs hlife h.config h.surroundings (by rw [Life.withWorld, hstage]; rfl)
    hphases (hfollows.registered hregistered (by simp) (by simp)) (hcame.heard hfollows.heard) ?_ ?_
  · refine ⟨?_, ?_⟩
    · simp [hfollows.questions, huntouched.listing.1, entriesOf]
    · simp [hfollows.exchanges, huntouched.listing.2, entriesOf]
  · have hstart := Pool.CameFrom.start (World.handler s.surroundings) (xs.map remove)
      (fun i => (hremoval i).1) fun i => (hremoval i).2
    simpa [Function.comp_def] using hstart

/-- The stored subscriptions cannot be listed, and the session stops. -/
theorem sound_unlisted {r : Outcome Unit} {f : Failure} (h : c.Sound s)
    (hstage : c.life.stage = .listing r)
    (hlife : c'.life = (c.life.withWorld c.life.session.listing.2).enter (.stopped (conclude r) 0))
    (hfollows : c.Follows c' (some (.listing, .listSubscriptions none))
      (some (.listing, ⟨.listSubscriptions none, .error f⟩)) none) : c'.Sound s := by
  have hstands := h.stands
  rw [hstage] at hstands
  obtain ⟨registered, hphases, hregistered, hcame, huntouched⟩ := hstands
  refine sound_stopped hlife h.config h.surroundings (by rw [Life.withWorld, hstage]; rfl) hphases
    (hfollows.registered hregistered (by simp) (by simp)) (hcame.heard hfollows.heard)
    (.unlisted f ?_ ?_)
  · refine ⟨?_, ?_⟩
    · simp [hfollows.questions, huntouched.listing.1, entriesOf]
    · simp [hfollows.exchanges, huntouched.listing.2, entriesOf]
  · intro i
    obtain ⟨hq, hx⟩ := hfollows.same (.removal i) (by simp) (by simp)
    rw [hq, hx]
    exact huntouched.removal i

/-- A removal has a turn. -/
theorem sound_removal {i : Nat} {r : Outcome Unit} {pool : Pool Engine (World τ) Bool}
    (h : c.Sound s) (hstage : c.life.stage = .removing r pool)
    (hlife : c'.life = (c.life.withWorld
        (pool.step (World.handler c.life.session.surroundings) c.life.session.world i).2).unregistered
      r (pool.step (World.handler c.life.session.surroundings) c.life.session.world i).1)
    (hfollows : c.Follows c' ((pool.question? i).map (.removal i, ·))
      ((pool.exchange? (World.handler c.life.session.surroundings) c.life.session.world i).map
        (.removal i, ·)) none) : c'.Sound s := by
  have hstands := h.stands
  rw [hstage] at hstands
  obtain ⟨registered, xs, hphases, hregistered, hcame, hlisted, hpool⟩ := hstands
  have hturn := hfollows.turn .removal (by simp)
  have hlisting := hfollows.same .listing (by simp) (by simp)
  refine sound_unregistered xs hlife h.config h.surroundings (by rw [Life.withWorld, hstage]; rfl)
    hphases (hfollows.registered hregistered (by simp) (by simp)) (hcame.heard hfollows.heard) ?_ ?_
  · simpa [Listed, hlisting.1, hlisting.2] using hlisted
  · rw [h.surroundings] at hturn ⊢
    exact hpool.step c.life.session.world i (fun j => (hturn j).1) fun j => (hturn j).2

/-- The time for removals is over. -/
theorem sound_expired {r : Outcome Unit} {pool : Pool Engine (World τ) Bool} (h : c.Sound s)
    (hstage : c.life.stage = .removing r pool)
    (hlife : c'.life = c.life.enter (.stopped (conclude r) 0)) (hcut : c'.expired = true)
    (hfollows : c.Follows c' none none none) : c'.Sound s := by
  have hstands := h.stands
  rw [hstage] at hstands
  obtain ⟨registered, xs, hphases, hregistered, hcame, hlisted, hpool⟩ := hstands
  have hsame : ∀ who, c'.questionsOf who = c.questionsOf who ∧
      c'.exchangesOf who = c.exchangesOf who := fun who => hfollows.same who (by simp) (by simp)
  refine sound_stopped hlife h.config h.surroundings (by rw [hstage]; rfl) hphases
    (hfollows.registered hregistered (by simp) (by simp)) (hcame.heard hfollows.heard)
    (.listed xs ?_ ?_ ?_ ?_)
  · simpa [Listed, hsame] using hlisted
  · intro i x hx
    rw [(hsame _).1, (hsame _).2]
    exact hpool.came (getElem?_map_remove hx)
  · intro i hi
    rw [(hsame _).1, (hsame _).2]
    exact hpool.silent i (by simpa using hi)
  · simp [hcut]

/-- A step in which nothing is asked, told or heard, and no stage is entered. -/
theorem sound_quiet (h : c.Sound s) (hconfig : c'.life.session.config = c.life.session.config)
    (hsurroundings : c'.life.session.surroundings = c.life.session.surroundings)
    (hstage : c'.life.stage = c.life.stage) (hentered : c'.life.entered = c.life.entered)
    (hexpired : c'.expired = false → c.expired = false)
    (hfollows : c.Follows c' none none none) : c'.Sound s where
  config := hconfig.trans h.config
  surroundings := hsurroundings.trans h.surroundings
  stands := by
    rw [hstage]
    exact h.stands.follows hfollows hentered hexpired

theorem sound_step (h : c.Sound s) (event : LifeEvent) : (c.step event).Sound s := by
  have hfollows := Follows.step c event
  have hlife : (c.step event).life = c.life.step event := rfl
  have hexpired : (c.step event).expired = (c.expired || c.life.expires event) := rfl
  have hhappens := c.life.happens event
  generalize c.step event = c' at *
  generalize c.life.asked? event = asked? at *
  generalize c.life.told? event = told? at *
  generalize c.life.heard? event = heard? at *
  generalize c.life.step event = l' at *
  have hgoes : c'.expired = false → c.expired = false := fun hnot =>
    (Bool.or_eq_false_iff.mp (hexpired.symm.trans hnot)).1
  cases hhappens with
  | registration stage => exact sound_registration h stage hlife hfollows
  | listening stage => exact sound_listen h stage hlife hfollows
  | listed stage => exact sound_listed h stage hlife hfollows
  | unlisted stage => exact sound_unlisted h stage hlife hfollows
  | removal stage => exact sound_removal h stage hlife hfollows
  | expired stage =>
    exact sound_expired h stage hlife (by simp [hexpired, Life.expires, stage]) hfollows
  | cancelled =>
    exact sound_quiet h (by rw [hlife]; rfl) (by rw [hlife]; rfl) (by rw [hlife]; rfl)
      (by rw [hlife]; rfl) hgoes hfollows
  | nothing =>
    exact sound_quiet h (by rw [hlife]) (by rw [hlife]) (by rw [hlife]) (by rw [hlife]) hgoes hfollows

/-- What every step keeps is kept by all events in order. -/
theorem run_invariant {P : Chronicle τ → Prop} (hstep : ∀ c event, P c → P (c.step event))
    (hc : P c) (events : List LifeEvent) : P (c.run events) := by
  induction events generalizing c with
  | nil => exact hc
  | cons event events ih => exact ih (hstep c event hc)

/-- Whatever happens in the life of a session, it stands where its history has brought it. -/
theorem sound_run (s : Session τ) (ownWay : String → Bool) (events : List LifeEvent) :
    ((Chronicle.begin s ownWay).run events).Sound s :=
  run_invariant (P := Sound s) (fun _ event h => sound_step h event) (sound_begin s ownWay) events

/-! ### What each asker has done -/

/-- At any time the registration at an index is somewhere in its script, if there is one. -/
theorem Sound.registration (h : c.Sound s) (i : Nat) :
    (∃ script, s.registrations[i]? = some script ∧
      script.Came (c.questionsOf (.registration i)) (c.exchangesOf (.registration i))) ∨
    s.registrations[i]? = none ∧ c.questionsOf (.registration i) = [] ∧
      c.exchangesOf (.registration i) = [] := by
  have hstands := h.stands
  generalize hstage : c.life.stage = stage at hstands
  have hregistered : ∀ r, c.Registered s r → (∃ script, s.registrations[i]? = some script ∧
      script.Came (c.questionsOf (.registration i)) (c.exchangesOf (.registration i))) ∨
      s.registrations[i]? = none ∧ c.questionsOf (.registration i) = [] ∧
        c.exchangesOf (.registration i) = [] := by
    intro r hr
    cases hscript : s.registrations[i]? with
    | none => exact .inr ⟨rfl, hr.silent i hscript⟩
    | some script => exact .inl ⟨script, rfl, hr.came i script hscript⟩
  cases stage with
  | registering pool =>
    obtain ⟨-, hpool, -, -⟩ := hstands
    cases hscript : s.registrations[i]? with
    | none => exact .inr ⟨rfl, hpool.silent i hscript⟩
    | some script => exact .inl ⟨script, rfl, hpool.came hscript⟩
  | listening x => exact hregistered _ hstands.2.1
  | listing r =>
    obtain ⟨registered, -, hr, -⟩ := hstands
    exact hregistered _ hr
  | removing r pool =>
    obtain ⟨registered, xs, -, hr, -⟩ := hstands
    exact hregistered _ hr
  | stopped r n =>
    obtain ⟨registered, listened, -, hr, -⟩ := hstands
    exact hregistered _ hr

/-- At any time the removal at an index is somewhere in the script for what was listed there, if
anything was. -/
theorem Sound.removal (h : c.Sound s) (i : Nat) :
    (∃ xs x, c.Listed (.ok xs) ∧ xs[i]? = some x ∧
      (remove x).Came (c.questionsOf (.removal i)) (c.exchangesOf (.removal i))) ∨
    c.questionsOf (.removal i) = [] := by
  have hstands := h.stands
  generalize hstage : c.life.stage = stage at hstands
  cases stage with
  | registering pool => exact .inr (hstands.2.2.2.removal i).1
  | listening x => exact .inr (hstands.2.2.2.removal i).1
  | listing r =>
    obtain ⟨registered, -, -, -, huntouched⟩ := hstands
    exact .inr (huntouched.removal i).1
  | removing r pool =>
    obtain ⟨registered, xs, -, -, -, hlisted, hpool⟩ := hstands
    cases hx : xs[i]? with
    | none => exact .inr (hpool.silent i (by simpa using hx)).1
    | some x => exact .inl ⟨xs, x, hlisted, hx, hpool.came (getElem?_map_remove hx)⟩
  | stopped r n =>
    obtain ⟨registered, listened, -, -, -, -, htorn⟩ := hstands
    cases htorn with
    | unlisted f listed silent => exact .inr (silent i).1
    | listed xs listed came silent ended =>
      cases hx : xs[i]? with
      | none => exact .inr (silent i hx).1
      | some x => exact .inl ⟨xs, x, listed, hx, came i x hx⟩

theorem TornDown.listed_once (h : c.TornDown) : c.questionsOf .listing = [.listSubscriptions none] := by
  cases h with
  | unlisted f listed silent => exact listed.1
  | listed xs listed came silent ended => exact listed.1

/-- Until the stored subscriptions are listed, nothing of the teardown has begun. -/
theorem Sound.untouched (h : c.Sound s) (hlisting : c.questionsOf .listing = []) : c.Untouched := by
  have hstands := h.stands
  generalize hstage : c.life.stage = stage at hstands
  cases stage with
  | registering pool => exact hstands.2.2.2
  | listening x => exact hstands.2.2.2
  | listing r =>
    obtain ⟨registered, -, -, -, huntouched⟩ := hstands
    exact huntouched
  | removing r pool =>
    obtain ⟨registered, xs, -, -, -, hlisted, -⟩ := hstands
    cases hlisting.symm.trans hlisted.1
  | stopped r n =>
    obtain ⟨registered, listened, -, -, -, -, htorn⟩ := hstands
    cases hlisting.symm.trans htorn.listed_once

/-- The listeners begin only after all registrations have succeeded. -/
theorem Sound.succeeded (h : c.Sound s) (hlistening : .listening ∈ c.life.entered) :
    c.Registered s (.ok ()) := by
  have hstands := h.stands
  have hentered : ∀ {registered : Outcome Unit}, c.life.entered <+: phases registered →
      c.Registered s registered → c.Registered s (.ok ()) := by
    intro registered hphases hregistered
    cases registered with
    | ok => exact hregistered
    | error f => simpa [phases] using hphases.subset hlistening
  generalize hstage : c.life.stage = stage at hstands
  cases stage with
  | registering pool =>
    rw [hstands.1] at hlistening
    simp at hlistening
  | listening x => exact hstands.2.1
  | listing r =>
    obtain ⟨registered, hphases, hregistered, -⟩ := hstands
    exact hentered (hphases ▸ List.dropLast_prefix _) hregistered
  | removing r pool =>
    obtain ⟨registered, xs, hphases, hregistered, -⟩ := hstands
    exact hentered (hphases ▸ List.dropLast_prefix _) hregistered
  | stopped r n =>
    obtain ⟨registered, listened, hphases, hregistered, -⟩ := hstands
    exact hentered (hphases ▸ List.prefix_refl _) hregistered

theorem mem_questionsOf {who : Asker} {q : Question} (h : (who, q) ∈ c.asked) :
    q ∈ c.questionsOf who :=
  mem_entriesOf.mpr h

theorem mem_told_of_exchangesOf {who : Asker} {x : Exchange Engine} (h : x ∈ c.exchangesOf who) :
    (who, x) ∈ c.told :=
  mem_entriesOf.mp h

end Chronicle
end TicketSync.Engine
