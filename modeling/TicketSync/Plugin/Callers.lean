import TicketSync.Plugin.Redial

/-!
Callers that share a connection, step by step and in any order. A caller's question to the shared
connection is one step; dials, calls and pauses end when and as they may, and a caller can be
cancelled while it waits for one of them. Every dial that succeeds gives a connection with a number
of its own.
-/
namespace TicketSync.Plugin

/-- What is remembered of callers: one was handed the shared connection, installed one and got the
one that was kept, sent a call on one and waits no longer, was told that it is lost, or has dropped
it. -/
inductive CallerMark where
  | handed (caller connection : Nat)
  | installed (caller offered kept : Nat)
  | sent (caller connection : Nat)
  | lost (caller connection : Nat)
  | dropped (caller connection : Nat)
  deriving DecidableEq

/-- Callers, each with what it has left to do, the shared connection, the number of connections
that were dialled, and what is remembered. -/
structure Callers where
  scripts : List (Script (Redial Nat) Json)
  shared : Option Nat := none
  dialled : Nat := 0
  marks : List CallerMark := []

/-- Something that happens to callers: one begins; it has its turn at the shared connection; its
dial, its call or its pause ends; and it is cancelled while it waits. -/
inductive CallerEvent where
  | begin (p : RetryPolicy) (method : String) (params : Json)
  | turn (caller : Nat)
  | dialEnds (caller : Nat) (r : Outcome Unit)
  | callEnds (caller : Nat) (r : Outcome Json)
  | pauseEnds (caller : Nat)
  | cancel (caller : Nat)

namespace Callers

/-- Callers with one more mark. -/
def mark (x : Callers) (m : CallerMark) : Callers := { x with marks := x.marks ++ [m] }

/-- Callers after one of them went on with what it has left to do. -/
def proceed (x : Callers) (i : Nat) (script : Script (Redial Nat) Json) : Callers :=
  { x with scripts := x.scripts.set i script }

/-- Callers after one had its turn at the shared connection. -/
def turn (x : Callers) (i : Nat) : Callers :=
  match x.scripts[i]? with
  | some (.ask .current next) =>
    let y := x.proceed i (next x.shared)
    match x.shared with
    | some c => y.mark (.handed i c)
    | none => y
  | some (.ask (.install c) next) =>
    let kept := Redial.keep x.shared c
    { x.proceed i (next kept) with shared := some kept }.mark (.installed i c kept)
  | some (.ask (.invalidate c) next) =>
    { x.proceed i (next ()) with shared := Redial.drop x.shared c }.mark (.dropped i c)
  | _ => x

/-- Callers after a dial of one has ended. -/
def dialEnds (x : Callers) (i : Nat) (r : Outcome Unit) : Callers :=
  match x.scripts[i]? with
  | some (.ask .dial next) =>
    match r with
    | .ok _ =>
      { x.proceed i (next (.ok (x.dialled + 1))) with dialled := x.dialled + 1 }
    | .error f => x.proceed i (next (.error f))
  | _ => x

/-- Callers after a call of one was sent and has ended. -/
def callEnds (x : Callers) (i : Nat) (r : Outcome Json) : Callers :=
  match x.scripts[i]? with
  | some (.ask (.send c _ _) next) =>
    let y := (x.proceed i (next r)).mark (.sent i c)
    if Redial.isLost r then y.mark (.lost i c) else y
  | _ => x

/-- Callers after the pause of one is over. -/
def pauseEnds (x : Callers) (i : Nat) : Callers :=
  match x.scripts[i]? with
  | some (.ask .pause next) => x.proceed i (next (.ok ()))
  | _ => x

/-- Callers after one was cancelled. Only a caller that waits learns of it. -/
def cancel (x : Callers) (i : Nat) : Callers :=
  match x.scripts[i]? with
  | some (.ask .dial next) => x.proceed i (next (.error .cancelled))
  | some (.ask (.send c _ _) next) => (x.proceed i (next (.error .cancelled))).mark (.sent i c)
  | some (.ask .pause next) => x.proceed i (next (.error .cancelled))
  | _ => x

/-- What happens to callers. What cannot happen changes nothing. -/
def step (x : Callers) : CallerEvent → Callers
  | .begin p method params =>
    { x with scripts := x.scripts ++ [Redial.call p method params] }
  | .turn i => x.turn i
  | .dialEnds i r => x.dialEnds i r
  | .callEnds i r => x.callEnds i r
  | .pauseEnds i => x.pauseEnds i
  | .cancel i => x.cancel i

/-- Callers after events in order. -/
def run (x : Callers) (events : List CallerEvent) : Callers := events.foldl step x

/-- The outcome of the call of a caller, once it has ended. -/
def outcome? (x : Callers) (i : Nat) : Option (Outcome Json) :=
  match x.scripts[i]? with
  | some (.done v) => some (.ok v)
  | some (.fail f) => some (.error f)
  | _ => none

end Callers
end TicketSync.Plugin
