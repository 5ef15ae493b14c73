import TicketSync.Engine.Listening

/-!
The life of a session, step by step: triggers are registered together, the listeners run if all
registrations succeed, and every subscription that is stored is removed, however the session got
there. The caller's token is given to the registrations themselves; listeners get a token of their
own, which is cancelled with the caller's but not the other way round.
-/
namespace TicketSync.Engine

/-- What a session does. -/
inductive LifeStage (τ : Type) where
  | registering (pool : Pool Engine (World τ) Unit)
  | listening (x : Listening τ)
  | listing (r : Outcome Unit)
  | removing (r : Outcome Unit) (pool : Pool Engine (World τ) Bool)
  | stopped (r : Outcome Unit) (removed : Nat)

/-- The phase of a stage. -/
def LifeStage.phase {τ : Type} : LifeStage τ → Phase
  | registering _ => .registering
  | listening _ => .listening
  | listing _ | removing _ _ => .unregistering
  | stopped _ _ => .stopped

/-- A session in its life, with whether its caller's token is cancelled, the trackers that listen in
a way of their own, and the phases that it has entered. -/
structure Life (τ : Type) where
  session : Session τ
  stage : LifeStage τ
  cancelled : Bool
  ownWay : String → Bool
  entered : List Phase

/-- Something that happens in the life of a session: a registration or a removal has a turn; the
listeners go on; the caller cancels its token; the stored subscriptions are listed; and the time for
removals is over. -/
inductive LifeEvent where
  | turn (i : Nat)
  | listen (e : ListenerEvent)
  | cancel
  | list
  | expire

namespace Life

variable {τ : Type}

/-- The life in another stage. Its phase is noted when it is a new one. -/
def enter (l : Life τ) (stage : LifeStage τ) : Life τ :=
  { l with
    stage
    session := { l.session with phase := stage.phase }
    entered := if stage.phase = l.stage.phase then l.entered else l.entered ++ [stage.phase] }

/-- The life after registrations went on: the first failure ends them, and after all have succeeded
the listeners begin. -/
def registered (l : Life τ) (pool : Pool Engine (World τ) Unit) : Life τ :=
  match pool.failure? with
  | some f => l.enter (.listing (.error f))
  | none =>
    if pool.ended then l.enter (.listening (.begin l.session.surroundings.trackers.names l.ownWay))
    else l.enter (.registering pool)

/-- The life after removals went on. After all have ended it is over. -/
def unregistered (l : Life τ) (r : Outcome Unit) (pool : Pool Engine (World τ) Bool) : Life τ :=
  if pool.ended then l.enter (.stopped (conclude r) pool.confirmed)
  else l.enter (.removing r pool)

/-- The life of a session at its beginning. -/
def begin (s : Session τ) (ownWay : String → Bool) : Life τ :=
  let pool := s.config.triggers.map fun t => Task.ready (register s.baseUrl t)
  let l : Life τ :=
    { session := { s with phase := .registering }
      stage := .registering pool
      cancelled := s.world.isCancelled
      ownWay
      entered := [.registering] }
  l.registered pool

/-- The life with another world. -/
def withWorld (l : Life τ) (world : World τ) : Life τ :=
  { l with session := { l.session with world } }

/-- The life after a registration or a removal had a turn. While triggers are registered the token
is the caller's, so a tracker that cancels it cancels the caller's. -/
def turn (l : Life τ) (i : Nat) : Life τ :=
  let h := World.handler l.session.surroundings
  match l.stage with
  | .registering pool =>
    let (pool, world) := pool.step h l.session.world i
    { l.withWorld world with cancelled := l.cancelled || world.isCancelled }.registered pool
  | .removing r pool =>
    let (pool, world) := pool.step h l.session.world i
    (l.withWorld world).unregistered r pool
  | _ => l

/-- The life after something happened to the listeners. -/
def listen (l : Life τ) (e : ListenerEvent) : Life τ :=
  match l.stage with
  | .listening x =>
    let (x, session) := x.step l.session e
    let l := { l with session }
    match x.outcome? with
    | some r => l.enter (.listing r)
    | none => l.enter (.listening x)
  | _ => l

/-- The life after the caller cancelled its token. -/
def cancel (l : Life τ) : Life τ :=
  { l with cancelled := true, session := l.session.revoke true }

/-- The life after the stored subscriptions were listed, which are then removed. -/
def list (l : Life τ) : Life τ :=
  match l.stage with
  | .listing r =>
    let (listed, session) := l.session.perform (listSubscriptions "")
    let l := { l with session }
    match listed with
    | .ok xs => l.unregistered r (xs.map fun x => Task.ready (remove x))
    | .error _ => l.enter (.stopped (conclude r) 0)
  | _ => l

/-- The life after the time for removals is over. Those under way are abandoned, and none is
counted. -/
def expire (l : Life τ) : Life τ :=
  match l.stage with
  | .removing r _ => l.enter (.stopped (conclude r) 0)
  | _ => l

/-- What happens in the life of a session. What cannot happen changes nothing. -/
def step (l : Life τ) : LifeEvent → Life τ
  | .turn i => l.turn i
  | .listen e => l.listen e
  | .cancel => l.cancel
  | .list => l.list
  | .expire => l.expire

/-- A life after events in order. -/
def run (l : Life τ) (events : List LifeEvent) : Life τ := events.foldl step l

/-- The outcome of a life that is over, and how many subscriptions it reports as removed. -/
def outcome? (l : Life τ) : Option (Outcome Unit × Nat) :=
  match l.stage with
  | .stopped r removed => some (r, removed)
  | _ => none

end Life
end TicketSync.Engine
