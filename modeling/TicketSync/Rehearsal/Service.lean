import TicketSync.Engine.World
import TicketSync.Plugin.Link
import TicketSync.Rehearsal.Cast
import TicketSync.Script.Clock

/-! A player that is served as a plugin: what is asked of it stands in a log. -/
namespace TicketSync.Rehearsal

open Engine Plugin

/-- A served player: its count and what was asked of it. -/
structure Served where
  tally : Tally := .empty
  log : List Event := []

namespace Served

variable {α : Type}

/-- The log with one more event. -/
def note (s : Served) (e : Event) : Served := { s with log := s.log ++ [e] }

/-- The answer of the player on its way. -/
def reply (r : Reply Tally α) : Pending Served (Outcome α) where
  delay := r.delay
  finish s :=
    let (outcome, tally) := r.settle s.tally
    (outcome, { s with tally })

/-- How the player takes what is asked of it. -/
def handler (p : Player) : Handler Service Served
  | .call r, s => (reply (p.call r), s.note (.called p.name r))
  | .subscribe r, s => (reply p.register, s.note (.subscribed p.name r))
  | .unsubscribe ref, s => (reply (p.remove ref), s.note (.unsubscribed p.name ref))
  | .handleWebhook x r, s => (.now (Player.read r), s.note (.passed p.name x r))

/-- The outcome of a script that asks the player, and what was asked. -/
def perform (p : Player) (script : Script Service α) (s : Served) : Outcome α × Served :=
  script.run (handler p).atOnce s

/-- The responses to lines that come in together, in the order in which the requests end. -/
def respond (p : Player) (name : String) (lines : List (List Char)) (s : Served) :
    List Response × Served :=
  let requests := lines.filterMap Service.request?
  let scripts := requests.map fun r => Service.dispatch name r.method r.params
  let x := Gathering.run {} (fun _ _ => handler p) scripts.length scripts 0 s
  let responses := x.outcomes.map fun (i, r) =>
    Service.respond (((requests[i]?).map (·.id)).getD 0) r
  (responses, x.state)

end Served
end TicketSync.Rehearsal
