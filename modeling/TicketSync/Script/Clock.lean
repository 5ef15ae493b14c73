import TicketSync.Script.Pool

/-!
Scripts on a clock. Several scripts are gathered and each runs until it has to wait; then the clock
moves on to the next moment at which an answer comes or a limit ends. What wakes at one moment
takes its turns in the order in which the waits began, and an answer that comes at the moment of a
limit still counts. Only so many scripts may be under way at a time, and the others follow in order
as places become free.
-/
namespace TicketSync

/-- What a script comes to before time has to pass. -/
inductive Pause (D : Dialogue) (σ α : Type) where
  | ended (r : Outcome α)
  | asleep (delay : Option Nat) (wake : σ → Script D α × σ)

/-- Runs a script until it has to wait. -/
def Script.advance {D : Dialogue} {σ α : Type} (h : Handler D σ) :
    Script D α → σ → Pause D σ α × σ
  | .done x, s => (.ended (.ok x), s)
  | .fail f, s => (.ended (.error f), s)
  | .ask q next, s =>
    let (p, s) := h q s
    if p.delay = some 0 then
      let (a, s) := p.finish s
      (next a).advance h s
    else
      (.asleep p.delay fun s =>
        let (a, s) := p.finish s
        (next a, s), s)

/-- How scripts are gathered: how many may be under way at once, how many milliseconds one may
take, how many all may take together, and whether the first failure ends all. -/
structure Gathering where
  width : Option Nat := none
  eachLimit : Option Nat := none
  limit : Option Nat := none
  stopsAtFailure : Bool := false

/-- A script that waits. The order tells which of two waits began first; a limit has a place in
the same order. -/
structure Sleeper (D : Dialogue) (σ α : Type) where
  index : Nat
  due : Option Nat
  order : Nat
  expires : Option (Nat × Nat)
  wake : σ → Script D α × σ

/-- The moment at which a sleeper wakes or expires. -/
def Sleeper.moment {D : Dialogue} {σ α : Type} (x : Sleeper D σ α) : Option Nat :=
  match x.due, x.expires with
  | some d, some (e, _) => some (min d e)
  | some d, none => some d
  | none, some (e, _) => some e
  | none, none => none

/-- The place of a sleeper among those of one moment. -/
def Sleeper.place {D : Dialogue} {σ α : Type} (x : Sleeper D σ α) : Nat :=
  match x.expires with
  | some (e, place) => if x.due.all (e < ·) then place else x.order
  | none => x.order

/-- Gathered scripts on a clock: the time, the state that they share, those that wait, and the
outcomes so far with the indices of their scripts, in the order of their ends. -/
structure Gathered (D : Dialogue) (σ α : Type) where
  now : Nat
  state : σ
  waits : Nat := 0
  asleep : List (Sleeper D σ α) := []
  outcomes : List (Nat × Outcome α) := []
  timedOut : Bool := false

namespace Gathered

variable {D : Dialogue} {σ α : Type}

/-- The next moment at which something happens. -/
def nextMoment (x : Gathered D σ α) : Option Nat :=
  (x.asleep.filterMap Sleeper.moment).min?

/-- The outcome of the script at an index. -/
def outcome? (x : Gathered D σ α) (i : Nat) : Option (Outcome α) :=
  (x.outcomes.find? (·.1 = i)).map (·.2)

/-- The first failure. -/
def failure? (x : Gathered D σ α) : Option Failure :=
  x.outcomes.findSome? fun
    | (_, .error f) => some f
    | _ => none

/-- The gathering with one more outcome. -/
def finish (x : Gathered D σ α) (i : Nat) (r : Outcome α) : Gathered D σ α :=
  { x with outcomes := x.outcomes ++ [(i, r)] }

end Gathered

namespace Gathering

variable {D : Dialogue} {σ α : Type}

/-- Whether nothing runs any more because of a failure. -/
def stopped (g : Gathering) (x : Gathered D σ α) : Bool :=
  g.stopsAtFailure && x.failure?.isSome

/-- Lets the script at an index run on. Its limit, if it is not set yet, begins with its first
wait. -/
def resume (g : Gathering) (h : Nat → Nat → Handler D σ) (i : Nat)
    (expires : Option (Nat × Nat)) (script : Script D α) (x : Gathered D σ α) :
    Gathered D σ α :=
  match script.advance (h i x.now) x.state with
  | (.ended r, s) => { x with state := s }.finish i r
  | (.asleep delay wake, s) =>
    let expires := expires.or (g.eachLimit.map fun l => (x.now + l, x.waits + 1))
    if expires.any (·.1 ≤ x.now) then
      { x with state := s }.finish i (.error (.timeout (g.eachLimit.getD 0)))
    else
      let sleeper := ⟨i, delay.map (x.now + ·), x.waits, expires, wake⟩
      { x with state := s, waits := x.waits + 2, asleep := x.asleep ++ [sleeper] }

/-- Lets scripts begin while there are places for them, and leaves the others. -/
def letIn (g : Gathering) (h : Nat → Nat → Handler D σ) :
    List (Nat × Script D α) → Gathered D σ α → List (Nat × Script D α) × Gathered D σ α
  | [], x => ([], x)
  | (i, script) :: rest, x =>
    if g.stopped x then ([], x)
    else if g.width.all (x.asleep.length < ·) then g.letIn h rest (g.resume h i none script x)
    else ((i, script) :: rest, x)

/-- Wakes sleepers in turn at the present moment. -/
def wake (g : Gathering) (h : Nat → Nat → Handler D σ) :
    List (Sleeper D σ α) → Gathered D σ α → Gathered D σ α
  | [], x => x
  | s :: rest, x =>
    if g.stopped x then x
    else if s.due.any (· ≤ x.now) then
      let (script, state) := s.wake x.state
      g.wake h rest (g.resume h s.index s.expires script { x with state })
    else g.wake h rest (x.finish s.index (.error (.timeout (g.eachLimit.getD 0))))

/-- Moves the clock to a moment and wakes what is due then. -/
def moveTo (g : Gathering) (h : Nat → Nat → Handler D σ) (t : Nat) (x : Gathered D σ α) :
    Gathered D σ α :=
  let (woken, asleep) := x.asleep.partition fun s => s.moment.any (· ≤ t)
  g.wake h (woken.mergeSort fun a b => a.place ≤ b.place) { x with now := t, asleep }

/-- Lets the clock run through at most so many moments. -/
def proceed (g : Gathering) (h : Nat → Nat → Handler D σ) (ends : Option Nat) :
    Nat → List (Nat × Script D α) → Gathered D σ α → Gathered D σ α
  | 0, _, x => x
  | moments + 1, queue, x =>
    if g.stopped x || x.asleep.isEmpty then x
    else
      match x.nextMoment, ends with
      | none, none => x
      | none, some e => { x with now := e, timedOut := true }
      | some t, ends =>
        if ends.any (· < t) then { x with now := ends.getD t, timedOut := true }
        else
          let (queue, x) := g.letIn h queue (g.moveTo h t x)
          if ends = some t && !x.asleep.isEmpty then { x with timedOut := true }
          else g.proceed h ends moments queue x

/-- Runs scripts together from a moment on, through at most so many moments at which one of them
wakes. The surroundings are told which script asks, and when. -/
def run (g : Gathering) (h : Nat → Nat → Handler D σ) (moments : Nat)
    (scripts : List (Script D α)) (now : Nat) (s : σ) : Gathered D σ α :=
  let ends := g.limit.map (now + ·)
  let (queue, x) := g.letIn h ((List.range scripts.length).zip scripts) { now, state := s }
  g.proceed h ends moments queue x

end Gathering
end TicketSync
