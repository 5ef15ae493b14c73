import TicketSync.Plugin.Redial
import TicketSync.Script.Clock

/-!
A plugin that answers as it is told, for rehearsing the dialling on a clock. Each dial takes the
next of the connections that are told, and each call on a connection its next reply. Where nothing
more is told, dials are refused and connections are lost.
-/
namespace TicketSync.Rehearsal

open Plugin

/-- A reply that is told: after so many milliseconds, or never. -/
structure Told (α : Type) where
  delay : Option Nat := some 0
  outcome : Outcome α

/-- A connection that is told: its replies, call by call. -/
abbrev Line := List (Told Json)

/-- A call as the plugin saw it, with the number of its connection. -/
structure Sent where
  connection : Nat
  method : String
  params : Json

/-- The plugin's side: the dials that are told, how many were made, the connections by number, the
one that is shared, and the calls so far. -/
structure Peer where
  dials : List (Told Line)
  dialled : Nat := 0
  lines : List (Nat × Line) := []
  current : Option Nat := none
  sent : List Sent := []

namespace Peer

/-- The next reply on a connection, and the plugin's side after it. -/
def reply (p : Peer) (c : Nat) : Told Json × Peer :=
  match p.lines.find? (·.1 = c) with
  | some (_, told :: rest) =>
    (told, { p with lines := p.lines.map fun e => if e.1 = c then (c, rest) else e })
  | _ => ({ outcome := .error .connectionLost }, p)

/-- Whether a token that is cancelled at a moment cuts off what ends after a delay from now. -/
def cutOff (cancel : Option Nat) (now : Nat) (delay : Option Nat) : Bool :=
  cancel.any fun c => delay.all fun d => c ≤ now + d

/-- The answer of something that a cancelled token cuts off. -/
def answer {α : Type} (cancel : Option Nat) (now : Nat) (told : Told α) : Pending Peer (Outcome α) :=
  if cutOff cancel now told.delay then
    { delay := some (cancel.getD now - now), finish := fun p => (.error .cancelled, p) }
  else { delay := told.delay, finish := fun p => (told.outcome, p) }

/-- Dials: takes the next connection that is told. -/
def dial (p : Peer) : Told Nat × Peer :=
  let number := p.dialled + 1
  match p.dials with
  | [] => ({ outcome := .error (.transport "refused") }, { p with dialled := number })
  | told :: rest =>
    let line := (told.outcome.toOption).getD []
    (⟨told.delay, told.outcome.map fun _ => number⟩,
      { p with dials := rest, dialled := number, lines := p.lines ++ [(number, line)] })

/-- How the plugin's side takes the questions of a caller whose token is cancelled at a moment, if
ever. Who is cancelled beforehand neither dials nor sends. -/
def handler (pauseMs : Nat) (cancel : Option Nat) (now : Nat) : Handler (Redial Nat) Peer
  | .current, p => (.now p.current, p)
  | .install c, p =>
    let kept := Redial.keep p.current c
    (.now kept, { p with current := some kept })
  | .invalidate c, p =>
    (.now (), { p with current := Redial.drop p.current c })
  | .pause, p => (answer cancel now ⟨some pauseMs, .ok ()⟩, p)
  | .dial, p =>
    if cutOff cancel now (some 0) then (.now (.error .cancelled), p)
    else
      let (told, p) := p.dial
      (answer cancel now told, p)
  | .send c method params, p =>
    if cutOff cancel now (some 0) then (.now (.error .cancelled), p)
    else
      let (told, p) := p.reply c
      (answer cancel now told, { p with sent := p.sent ++ [⟨c, method, params⟩] })

end Peer

/-- Callers that share a connection to a plugin, on a clock. -/
structure Dialling where
  policy : RetryPolicy
  peer : Peer
  clock : Nat := 0

namespace Dialling

variable {α : Type}

/-- How many waits a call has at most. -/
def waits (p : RetryPolicy) : Nat := 3 * p.budget

/-- Lets callers begin at the same time, each with a token that is cancelled so many milliseconds
later, if ever. -/
def gather (d : Dialling) (callers : List (Option Nat × Script (Redial Nat) α)) :
    List (Outcome α) × Dialling :=
  let handler (i now : Nat) : Handler (Redial Nat) Peer :=
    let cancel := (callers[i]?).bind (·.1)
    Peer.handler d.policy.delayMs (cancel.map (d.clock + ·)) now
  let x := Gathering.run {} handler (callers.length * waits d.policy) (callers.map (·.2)) d.clock
    d.peer
  ((List.range callers.length).map fun i => (x.outcome? i).getD (.error .cancelled),
    { d with peer := x.state, clock := x.now })

/-- Runs the script of one caller whose token is never cancelled. -/
def perform (d : Dialling) (script : Script (Redial Nat) α) : Outcome α × Dialling :=
  let (outcomes, d) := d.gather [(none, script)]
  (outcomes.headD (.error .cancelled), d)

/-- Dials for the first time. -/
def connect (d : Dialling) : Outcome Unit × Dialling :=
  let (x, d) := d.perform (Redial.connect d.policy)
  (x.map fun _ => (), d)

end Dialling
end TicketSync.Rehearsal
